import SerialCheck.Exchange.Fault
import SerialCheck.Json.Reader
import SerialCheck.Rows

/-!
# Values in documents

Null, truth values, numbers, texts and arrays stand for themselves. Any other value is an object
with one member, which names its kind: `dec`, `float`, `bytes`, `mem` and `tuple`, a row that
stands inside a value. An array is a row where a row is expected, and else an array. What is only
passed on is not decoded but kept as it is (`verbatim`).
-/
namespace SerialCheck.Value

/-- The character is a blank between the digits of a byte string. -/
def isByteBlank (char : Char) : Bool := char == ' ' || ('\t' ≤ char && char ≤ '\r')

/-- The bytes that hexadecimal digits denote, two of them each; the place counts the characters
in front. A digit without its partner is given with its value. -/
def bytesFrom : Option Nat → Nat → List Char → Except Misuse (List UInt8)
  | none, _, [] => .ok []
  | some _, place, [] => .error (.malformedBytes place)
  | pending, place, char :: rest =>
    if pending.isNone && isByteBlank char then bytesFrom none (place + 1) rest
    else
      match Json.hexValue? char, pending with
      | none, _ => .error (.malformedBytes place)
      | some upper, none => bytesFrom (some upper) (place + 1) rest
      | some lower, some upper => do
        let bytes ← bytesFrom none (place + 1) rest
        return (16 * upper + lower).toUInt8 :: bytes

/-- The bytes that a text denotes. A character beyond ASCII is found before any other one. -/
def readBytes (digits : String) : Except Misuse (List UInt8) :=
  match digits.toList.findIdx? fun char => 128 ≤ char.toNat with
  | some place => .error (.malformedBytes place)
  | none => bytesFrom none 0 digits.toList

/-- The decimal number that a text denotes. -/
def readDecimal (digits : String) : Except Misuse Decimal :=
  (Decimal.read digits).mapError fun
    | .malformed => .malformedDecimal
    | .outOfRange => .undefined

/-- The binary number that a text denotes. -/
def readReal (digits : String) : Except Misuse Binary64 :=
  ((Binary64.read? digits).map .ok).getD (.error (.malformedReal digits))

/-- The number that the text of a number in a document denotes: a whole one if it has neither a
point nor an exponent. -/
def ofDigits (digits : String) : Value :=
  match Text.readInteger? digits with
  | some value => .integer value
  | none => .real ((Binary64.read? digits).getD .nan)

mutual

/-- The value that a document is, whatever its objects stand for elsewhere. -/
def verbatim : Json → Value
  | .null => .null
  | .boolean value => .boolean value
  | .number digits => ofDigits digits
  | .text value => .text value
  | .array items => .array (verbatimItems items)
  | .object members => .mapping (verbatimMembers members)

/-- The values that the items of an array are. -/
def verbatimItems : List Json → List Value
  | [] => []
  | item :: items => verbatim item :: verbatimItems items

/-- The values that the members of an object are, with their names. -/
def verbatimMembers : List (String × Json) → List (String × Value)
  | [] => []
  | (name, document) :: members => (name, verbatim document) :: verbatimMembers members

end

/-- The sign of a decimal number that is given in parts: one stands for a minus. -/
def signOf (sign : Value) : Except Misuse String :=
  match sign.count with
  | .ok 0 => .ok ""
  | .ok 1 => .ok "-"
  | _ => .error .decimalSign

/-- The digit of a decimal number that is given in parts. -/
def digitOf (digit : Value) : Except Misuse String :=
  match digit.count with
  | .ok digit => if 0 ≤ digit && digit ≤ 9 then .ok (toString digit) else .error .decimalDigits
  | .error _ => .error .decimalDigits

/-- The digits of a decimal number that is given in parts. -/
def digitsOf : Value → Except Misuse String
  | .array digits => return String.join (← digits.mapM digitOf)
  | _ => .error .decimalDigits

/-- How the digits of a decimal number that is given in parts are read: with an exponent, or with
a letter in its place for what is infinite or not a number. -/
def layoutOf : Value → Except Misuse (String → String)
  | .text "F" => .ok fun _ => "Infinity"
  | .text "n" => .ok fun digits => "NaN" ++ digits
  | .text "N" => .ok fun digits => "sNaN" ++ digits
  | .text _ => .error .decimalLetter
  | exponent =>
    match exponent.count with
    | .error _ => .error .decimalExponent
    | .ok exponent => .ok fun digits =>
      (if digits.isEmpty then "0" else digits) ++ "E" ++ toString exponent

/-- The decimal number that is given as its sign, its digits and its exponent. -/
def decimalOfParts : List Value → Except Misuse Decimal
  | [sign, digits, exponent] => do
    let sign ← signOf sign
    let layout ← layoutOf exponent
    let digits ← digitsOf digits
    readDecimal (sign ++ layout digits)
  | _ => .error .decimalParts

/-- The decimal number that a value stands for, which has exactly the value of a number. -/
def toDecimal : Value → Except Misuse Decimal
  | .text digits => readDecimal digits
  | .array parts => decimalOfParts parts
  | value => ((value.number?).map (.ok ∘ Number.toDecimal)).getD
    (.error (.decimalSource value.kindName))

/-- The bytes that a value stands for, which is a text of hexadecimal digits. -/
def toBytes : Value → Except Misuse (List UInt8)
  | .text digits => readBytes digits
  | value => .error (.byteSource value.kindName)

/-- The value of a kind that another value stands for. -/
def ofTagged (kind : String) (value : Value) : Except Misuse Value :=
  match kind with
  | "dec" => .decimal <$> value.toDecimal
  | "float" => .real <$> value.toReal
  | "bytes" => .bytes <$> value.toBytes
  | "mem" => .buffer <$> value.toBytes
  | "tuple" => .row <$> value.each
  | kind => .error (.tag kind)

mutual

/-- The value that a document stands for. -/
def decode : Json → Except Misuse Value
  | .null => .ok .null
  | .boolean value => .ok (.boolean value)
  | .number digits => .ok (ofDigits digits)
  | .text value => .ok (.text value)
  | .array items => .array <$> decodeItems items
  | .object [("tuple", .array items)] => .row <$> decodeItems items
  | .object [(kind, document)] => ofTagged kind (verbatim document)
  | .object members => .error (.members 1 members.length)

/-- The values that the items of an array stand for. -/
def decodeItems : List Json → Except Misuse (List Value)
  | [] => .ok []
  | item :: items => do
    let value ← decode item
    return value :: (← decodeItems items)

end

/-- The row that a document stands for, which may also be a scalar. -/
def decodeRow : Json → Except Misuse Value
  | .array items => .row <$> decodeItems items
  | document => decode document

/-- The rows that a document lists, or none at all. -/
def decodeRows? : Json → Except Misuse (Option Rows)
  | .null => .ok none
  | .array items => some <$> items.mapM decodeRow
  | document => some <$> (verbatim document).each

/-- The value that a document stands for. -/
def ofJson (document : Json) : Exchange Value := Exchange.use (decode document)

/-- The row that a document stands for, which may also be a scalar. -/
def rowOfJson (document : Json) : Exchange Value := Exchange.use (decodeRow document)

/-- The rows that an array stands for, or none at all. -/
def rowsOfJson? (document : Json) : Exchange (Option Rows) := Exchange.use (decodeRows? document)

/-- A list of rows, or another value. -/
def evidenceOfJson : Json → Exchange Value
  | .array items => .array <$> items.mapM rowOfJson
  | document => ofJson document

/-- The document of a binary number. -/
def realJson (value : Binary64) : Json := .object [("float", .text value.text)]

mutual

/-- The document of a value. -/
def toJson : Value → Json
  | .null => .null
  | .boolean value => .boolean value
  | .integer value => .integer value
  | .real value => realJson value
  | .text value => .text value
  | .decimal value => .object [("dec", .text value.text)]
  | .bytes value => .object [("bytes", .text (Text.hexText value))]
  | .buffer value => .object [("mem", .text (Text.hexText value))]
  | .row members => .array (toItems members)
  | .array members => .array (toItems members)
  | .mapping entries => .object (toMembers entries)

/-- The documents of several values. -/
def toItems : List Value → List Json
  | [] => []
  | member :: members => toJson member :: toItems members

/-- The documents of named values. -/
def toMembers : List (String × Value) → List (String × Json)
  | [] => []
  | (name, value) :: entries => (name, toJson value) :: toMembers entries

end

end SerialCheck.Value

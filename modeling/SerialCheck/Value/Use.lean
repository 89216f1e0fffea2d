import SerialCheck.Value.Alike

/-!
# Uses of values

What settings and the rows of the catalog are used for: to count, to be added to a time, to
name an address. Each use succeeds for the kinds that are made for it and is otherwise a
misuse.
-/
namespace SerialCheck.Value

/-- The value counts as given: it is not null, false, zero or empty. -/
def isFilled : Value → Bool
  | .null => false
  | .boolean value => value
  | .integer value => value != 0
  | .real value => value.quantity != .finite 0
  | .decimal value => !value.isZero
  | .text value => !value.isEmpty
  | .bytes value | .buffer value => !value.isEmpty
  | .row members | .array members => !members.isEmpty
  | .mapping entries => !entries.isEmpty

/-- The whole number that a value is; only whole numbers and truth values are. -/
def count : Value → Except Misuse Int
  | .integer value => .ok value
  | .boolean value => .ok (if value then 1 else 0)
  | value => .error (.count value.kindName)

/-- A binary number truncated to a whole one. -/
def wholePartOfReal (value : Binary64) : Except Misuse Int :=
  match value.quantity with
  | .nan => .error .wholePartOfNan
  | .infinity | .minusInfinity => .error .wholePartOfInfinity
  | .finite value => .ok (value.num.tdiv value.den)

/-- A decimal number truncated to a whole one. -/
def wholePartOfDecimal : Decimal → Except Misuse Int
  | .nan .. => .error .wholePartOfDecimalNan
  | .infinite _ => .error .wholePartOfDecimalInfinity
  | value => .ok value.truncated

/-- The whole number that characters denote, which are shown by a literal. -/
def wholePartOfChars (literal : String) (chars : List Char) : Except Misuse Int :=
  match Text.readWhole chars with
  | .ok value => .ok value
  | .error .malformed => .error (.numeral literal)
  | .error (.tooLong digits) => .error (.numeralLength digits)

/-- The bytes as characters, where one that is none of ASCII is no digit and no blank. -/
def asciiChars (bytes : List UInt8) : List Char :=
  bytes.map fun byte => if byte < 128 then Char.ofNat byte.toNat else '\uFFFD'

/-- A value as a whole number: a number is truncated, and a text or a byte string is read. -/
def wholePart : Value → Except Misuse Int
  | .boolean value => .ok (if value then 1 else 0)
  | .integer value => .ok value
  | .real value => wholePartOfReal value
  | .decimal value => wholePartOfDecimal value
  | .text value => wholePartOfChars (Text.quoted value) value.toList
  | .bytes value | .buffer value => wholePartOfChars (Text.quotedBytes value) (asciiChars value)
  | value => .error (.wholePart value.kindName)

/-- A value as a binary number: a number is rounded, and a text is read. -/
def toReal : Value → Except Misuse Binary64
  | .boolean value => .ok (if value then .one else .zero)
  | .integer value => (Number.binaryOf value).mapError fun _ => .tooLarge
  | .real value => .ok value
  | .text value => ((Binary64.read? value).map .ok).getD (.error (.malformedReal value))
  | value => .error (.realSource value.kindName)

/-- The text of a whole number, which is written only up to the greatest number of digits that is
read. -/
def writeWhole (value : Int) : Except Misuse String :=
  if Nat.pow 10 Text.maxIntegerDigits ≤ value.natAbs then .error .unwritable
  else .ok (toString value)

/-- The value of a number. -/
def ofNumber : Number → Value
  | .whole value => .integer value
  | .binary value => .real value
  | .decimal value => .decimal value

/-- The misuse that adding two numbers is which have no sum. -/
def sumMisuse (left right : Number) : Number.Unsummable → Misuse
  | .tooLarge => .tooLarge
  | .mixed => .sum (ofNumber left).kindName (ofNumber right).kindName
  | .decimal .undefined => .undefined
  | .decimal .tooLarge => .overflow

/-- The sum of two numbers. -/
def addNumbers (left right : Number) : Except Misuse Number :=
  (left.add right).mapError (sumMisuse left right)

/-- A number with a value added to it. -/
def addTo (value : Value) (number : Number) : Except Misuse Number :=
  match value.number? with
  | none => .error (.sum (ofNumber number).kindName value.kindName)
  | some other => addNumbers number other

/-- The sum of two values. -/
def plus (left right : Value) : Except Misuse Value :=
  match left.number? with
  | none => .error (.sum left.kindName right.kindName)
  | some number => ofNumber <$> right.addTo number

/-- A value as what increases a sum that begins at zero. -/
def asIncrease (value : Value) : Except Misuse Number :=
  match value.number? with
  | some number => .ok number
  | none => .error (.increase "int" value.kindName)

/-- A value with one added to it. -/
def successor (value : Value) : Except Misuse Value :=
  match value.number? with
  | some number => ofNumber <$> addNumbers number (.whole 1)
  | none =>
    match value with
    | .null | .buffer _ | .mapping _ => .error (.sum value.kindName "int")
    | value => .error (.concatenation value.kindName "int")

/-- A text that other texts are put in front of. -/
def suffix : Value → Except Misuse String
  | .text value => .ok value
  | value => .error (.concatenation "str" value.kindName)

/-- A byte as it is in capitals, if it is an ASCII letter. -/
def capitalByte (byte : UInt8) : UInt8 := if 97 ≤ byte && byte ≤ 122 then byte - 32 else byte

/-- A text or a byte string as it is in capitals. -/
def capitals : Value → Except Misuse Value
  | .text value => .ok (.text (Text.upper value))
  | .bytes value => .ok (.bytes (value.map capitalByte))
  | value => .error (.operation value.kindName "upper")

/-- A value that bounds a choice among whole numbers, by its place among the bounds. -/
def bound (name : String) (value : Value) : Except Misuse Int :=
  match value.count with
  | .ok number => .ok number
  | .error _ => do
    let whole ← value.wholePart
    if ← (Value.integer whole).equal value then return whole else throw (.bound name)

/-- The members of a value that is taken apart; those of a text are its characters, and those of
named values the names. -/
def members : Value → Except Misuse (List Value)
  | .row members | .array members => .ok members
  | .mapping entries => .ok (entries.map fun entry => .text entry.1)
  | .text value => .ok (value.toList.map fun char => .text (String.singleton char))
  | .bytes value | .buffer value => .ok (value.map fun byte => .integer byte.toNat)
  | value => .error (.unpacking value.kindName)

/-- The members of a value that is gone through. -/
def each (value : Value) : Except Misuse (List Value) :=
  value.members.mapError fun _ => .iteration value.kindName

/-- The text of the members at the front of a value, at most as many as given. -/
def start (length : Nat) : Value → Except Misuse String
  | .text value => .ok (Text.takeChars length value)
  | .row members => .ok (Value.row (members.take length)).literal
  | .array members => .ok (Value.array (members.take length)).literal
  | .bytes value => .ok (Value.bytes (value.take length)).literal
  | .buffer value => .ok (Value.buffer (value.take length)).literal
  | .mapping _ => .error (.key "slice")
  | value => .error (.places value.kindName)

/-- A text has the other value, which has to be a text, at its front. -/
def startsWith (value front : Value) : Except Misuse Bool :=
  match value, front with
  | .text value, .text front => .ok (Text.startsWith value front)
  | .text _, front => .error (.start front.kindName)
  | value, _ => .error (.operation value.kindName "startswith")

mutual

/-- What in a value makes it unfit for a name: an array, named values or a signal. -/
def unfit? : Value → Option Misuse
  | .array members => some (.key (Value.array members).kindName)
  | .mapping entries => some (.key (Value.mapping entries).kindName)
  | .decimal value => if value.isSignal then some .signal else none
  | .row members => unfitMember? members
  | _ => none

/-- What makes the first unfit one of several values unfit for a name. -/
def unfitMember? : List Value → Option Misuse
  | [] => none
  | member :: rest => (unfit? member).or (unfitMember? rest)

end

/-- A text contains a text, a list a member, and named values a name. -/
def contains (value part : Value) : Except Misuse Bool :=
  match value, part with
  | .text value, .text part => .ok (Text.contains value part)
  | .text _, part => .error (.pattern part.kindName)
  | .row members, part | .array members, part => .ok (members.any (part.alike ·))
  | .mapping entries, part =>
    match part.unfit? with
    | some cause => .error cause
    | none => .ok (entries.any fun entry => part.alike (.text entry.1))
  | value, _ => .error (.search value.kindName)

/-- The texts of a list that consists of texts; the place counts the members in front. -/
def textsFrom (place : Nat) : List Value → Except Misuse (List String)
  | [] => .ok []
  | .text value :: rest => do return value :: (← textsFrom (place + 1) rest)
  | value :: _ => .error (.join place value.kindName)

/-- The texts of a list that consists of texts. -/
def texts (members : List Value) : Except Misuse (List String) := textsFrom 0 members

end SerialCheck.Value

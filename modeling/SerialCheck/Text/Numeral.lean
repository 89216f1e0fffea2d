import SerialCheck.Text.Blank

/-!
# Numerals

Whole and decimal numbers as they are typed: a sign, digits of any script, single underscores
between digits, blanks around. Reading returns the exact value, without rounding.
-/
namespace SerialCheck.Text

/-- The code points of the digits zero. -/
def digitZeros : List Nat := [
  0x30, 0x660, 0x6F0, 0x7C0, 0x966, 0x9E6, 0xA66, 0xAE6, 0xB66, 0xBE6, 0xC66, 0xCE6, 0xD66,
  0xDE6, 0xE50, 0xED0, 0xF20, 0x1040, 0x1090, 0x17E0, 0x1810, 0x1946, 0x19D0, 0x1A80, 0x1A90,
  0x1B50, 0x1BB0, 0x1C40, 0x1C50, 0xA620, 0xA8D0, 0xA900, 0xA9D0, 0xA9F0, 0xAA50, 0xABF0,
  0xFF10, 0x104A0, 0x10D30, 0x11066, 0x110F0, 0x11136, 0x111D0, 0x112F0, 0x11450, 0x114D0,
  0x11650, 0x116C0, 0x11730, 0x118E0, 0x11950, 0x11C50, 0x11D50, 0x11DA0, 0x16A60, 0x16AC0,
  0x16B50, 0x1D7CE, 0x1D7D8, 0x1D7E2, 0x1D7EC, 0x1D7F6, 0x1E140, 0x1E2F0, 0x1E950, 0x1FBF0]

/-- The value of a decimal digit of any script. -/
def digitValue? (char : Char) : Option Nat :=
  (digitZeros.find? fun first => first ≤ char.toNat && char.toNat < first + 10).map
    (char.toNat - ·)

/-- The character may stand around a number: a blank other than an information separator. -/
def isNumeralBlank (char : Char) : Bool :=
  isBlank char && !(0x1C ≤ char.toNat && char.toNat ≤ 0x1F)

/-- The digits at the front, with single underscores between them, and what follows. -/
def digitRun : List Char → List Nat × List Char
  | [] => ([], [])
  | char :: tail =>
    match digitValue? char with
    | none => ([], char :: tail)
    | some digit =>
      match tail with
      | '_' :: next :: rest =>
        match digitRun (next :: rest) with
        | ([], _) => ([digit], '_' :: next :: rest)
        | (digits, rest) => (digit :: digits, rest)
      | tail =>
        let (digits, rest) := digitRun tail
        (digit :: digits, rest)

/-- The number that a sequence of decimal digits denotes, the most significant one first. -/
def ofDigits (digits : List Nat) : Nat := digits.foldl (10 * · + ·) 0

/-- A sign at the front, true for a minus, and what follows. -/
def sign : List Char → Bool × List Char
  | '+' :: tail => (false, tail)
  | '-' :: tail => (true, tail)
  | tail => (false, tail)

/-- A whole number with the sign given apart. -/
def signed (negative : Bool) (magnitude : Nat) : Int := if negative then -magnitude else magnitude

/-- The greatest number of digits of a whole number that is read. -/
def maxIntegerDigits : Nat := 4300

/-- Why characters denote no whole number. -/
inductive Illegible where
  /-- They are not of the form of one. -/
  | malformed
  /-- There are too many digits. -/
  | tooLong (digits : Nat)
  deriving Repr, DecidableEq

/-- An underscore is at the front. -/
def startsWithLine : List Char → Bool
  | '_' :: _ => true
  | _ => false

/-- The whole number that characters denote, if they are one of at most `maxIntegerDigits` digits.
What follows the digits is looked at after their number. -/
def readWhole (chars : List Char) : Except Illegible Int :=
  let (negative, chars) := sign (trimWhile isNumeralBlank chars)
  let (digits, rest) := digitRun chars
  if digits.isEmpty || startsWithLine rest then .error .malformed
  else if maxIntegerDigits < digits.length then .error (.tooLong digits.length)
  else if rest.isEmpty then .ok (signed negative (ofDigits digits))
  else .error .malformed

/-- The whole number that a text denotes, if it is one. -/
def readInteger? (text : String) : Option Int := (readWhole text.toList).toOption

/-- A decimal number: a sign, a whole significand and the power of ten by which it is taken. -/
structure Numeral where
  /-- The sign is a minus. -/
  negative : Bool
  /-- The digits as one whole number. -/
  significand : Nat
  /-- The exponent of the power of ten. -/
  exponent : Int
  deriving Repr, DecidableEq

/-- The exponent at the end of a numeral, zero if there is none. -/
def readExponent? : List Char → Option Int
  | [] => some 0
  | mark :: tail =>
    if mark == 'e' || mark == 'E' then
      let (negative, chars) := sign tail
      match digitRun chars with
      | ([], _) => none
      | (digits, []) => some (signed negative (ofDigits digits))
      | _ => none
    else none

/-- A decimal number without its sign: digits with at most one point, then an exponent. -/
def readUnsigned? (negative : Bool) (chars : List Char) : Option Numeral :=
  let (whole, rest) := digitRun chars
  let (fraction, rest) :=
    match rest with
    | '.' :: tail => digitRun tail
    | rest => ([], rest)
  if whole.isEmpty && fraction.isEmpty then none
  else
    (readExponent? rest).map fun exponent =>
      ⟨negative, ofDigits (whole ++ fraction), exponent - fraction.length⟩

end SerialCheck.Text

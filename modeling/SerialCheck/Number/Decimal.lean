import SerialCheck.Number.Binary64

/-!
# Decimal numbers

A decimal number keeps its written precision: `2.50` and `2.5` are different values. Its text
is positional unless the exponent is positive or the number is far below one.
-/
namespace SerialCheck

/-- A decimal number with its precision. -/
inductive Decimal where
  /-- `± coefficient * 10 ^ exponent`. -/
  | finite (negative : Bool) (coefficient : Nat) (exponent : Int)
  /-- An infinity. -/
  | infinite (negative : Bool)
  /-- Not a number, quiet or signalling, with the digits attached to it. -/
  | nan (negative signalling : Bool) (payload : String)
  deriving Repr, DecidableEq

namespace Decimal

/-- The least position of the point, relative to the first digit, that is written out. -/
def minPoint : Int := -5

/-- The sign of a negative number. -/
def signText (negative : Bool) : List Char := if negative then ['-'] else []

/-- Digits with a point at a position relative to their front. -/
def pointed (digits : List Char) (point : Int) : List Char :=
  if point ≤ 0 then '0' :: '.' :: List.replicate (-point).toNat '0' ++ digits
  else if digits.length ≤ point.toNat then digits
  else digits.take point.toNat ++ '.' :: digits.drop point.toNat

/-- The text of a decimal number. -/
def text : Decimal → String
  | .nan negative signalling payload =>
    String.ofList (signText negative) ++ (if signalling then "sNaN" else "NaN") ++ payload
  | .infinite negative => String.ofList (signText negative) ++ "Infinity"
  | .finite negative coefficient exponent =>
    let digits := (toString coefficient).toList
    let point := exponent + digits.length
    let unsigned :=
      if exponent ≤ 0 && minPoint ≤ point then pointed digits point
      else
        let power := point - 1
        let mark := if power < 0 then '-' else '+'
        pointed digits 1 ++ 'E' :: mark :: (toString power.natAbs).toList
    String.ofList (signText negative ++ unsigned)

/-- The digits attached to a value that is not a number, without leading zeros. -/
def payload? (chars : List Char) : Option String :=
  match Text.digitRun chars with
  | ([], []) => some ""
  | (digits, []) => some (if Text.ofDigits digits == 0 then "" else toString (Text.ofDigits digits))
  | _ => none

/-- The decimal number that has no digits and this lower-case name. -/
def ofName? (negative : Bool) (name : List Char) : Option Decimal :=
  if name == "inf".toList || name == "infinity".toList then some (.infinite negative)
  else if "nan".toList.isPrefixOf name then (payload? (name.drop 3)).map (.nan negative false)
  else if "snan".toList.isPrefixOf name then (payload? (name.drop 4)).map (.nan negative true)
  else none

/-- How many digits a coefficient has. -/
def width (coefficient : Nat) : Nat := (Nat.toDigits 10 coefficient).length

/-- The power of ten of the first digit. -/
def leading (coefficient : Nat) (exponent : Int) : Int := exponent + width coefficient - 1

/-- The greatest power of ten of a first digit. -/
def maxLeading : Int := 999999999999999999

/-- The least exponent of a number whose first digit is below all powers of ten in range. -/
def minExponent : Int := -1999999999999999997

/-- There is a decimal number of this coefficient and exponent. -/
def inRange (coefficient : Nat) (exponent : Int) : Bool :=
  let first := leading coefficient exponent
  first ≤ maxLeading && (-maxLeading ≤ first || minExponent ≤ exponent)

/-- Why a text is read as no decimal number. -/
inductive Unreadable where
  /-- It is not of the form of one. -/
  | malformed
  /-- It denotes a number that is too large or too fine. -/
  | outOfRange
  deriving Repr, DecidableEq

/-- The decimal number that a text denotes. Underscores have no meaning, wherever they stand. -/
def read (text : String) : Except Unreadable Decimal :=
  let (negative, chars) := Text.sign ((Text.trimWhile Text.isBlank text.toList).filter (· != '_'))
  match ofName? negative (chars.map Binary64.smallLetter), Text.readUnsigned? negative chars with
  | some number, _ => .ok number
  | none, none => .error .malformed
  | none, some numeral =>
    if inRange numeral.significand numeral.exponent then
      .ok (.finite negative numeral.significand numeral.exponent)
    else .error .outOfRange

end Decimal

end SerialCheck

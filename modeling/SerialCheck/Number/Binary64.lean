import SerialCheck.Text.Numeral

/-!
# Binary floating-point numbers

Numbers of the binary64 format as exact values: a finite one is a sign, a significand below
2^53 and a power of two. `ofRatio` rounds a quotient to the nearest of them, an exact half to
the even significand, and `read?` reads a decimal text this way.
-/
namespace SerialCheck

/-- A number of the binary64 format. -/
inductive Binary64 where
  /-- `± significand * 2 ^ exponent`. -/
  | finite (negative : Bool) (significand : Nat) (exponent : Int)
  /-- An infinity. -/
  | infinite (negative : Bool)
  /-- Not a number. -/
  | nan
  deriving Repr, DecidableEq

namespace Binary64

/-- The least exponent of a finite number. -/
def minExponent : Int := -1074

/-- The greatest exponent of a finite number. -/
def maxExponent : Int := 971

/-- The significand of a finite number is below `2 ^ 53`. -/
def significandBound : Nat := 0x20000000000000

/-- Zero. -/
def zero : Binary64 := .finite false 0 minExponent

/-- One half. -/
def half : Binary64 := .finite false 0x10000000000000 (-53)

/-- One. -/
def one : Binary64 := .finite false 0x10000000000000 (-52)

/-- Thirty. -/
def thirty : Binary64 := .finite false 0x1E000000000000 (-48)

/-- The power of a base with the exponent's negative part left out. -/
def power (base : Nat) (exponent : Int) : Nat := Nat.pow base exponent.toNat

/-- The whole number nearest to a quotient, an exact half going to the even neighbour. -/
def nearestQuotient (top bottom : Nat) : Nat :=
  let quotient := top / bottom
  let rest := 2 * (top % bottom)
  if rest < bottom || (rest == bottom && quotient % 2 == 0) then quotient else quotient + 1

/-- The whole number nearest to the quotient of `top * 2 ^ (-exponent)` by `bottom`. -/
def scaledQuotient (top bottom : Nat) (exponent : Int) : Nat :=
  nearestQuotient (top * power 2 (-exponent)) (bottom * power 2 exponent)

/-- The binary exponent at which a positive quotient has a significand of 53 bits, or one
more. -/
def exponentFor (top bottom : Nat) : Int := max minExponent (top.log2 - bottom.log2 - 53 : Int)

/-- The number of the format with this significand at this exponent, which may have to be
raised because the significand has 54 bits or more. -/
def normalize (negative : Bool) (top bottom : Nat) (exponent : Int) : Binary64 :=
  let exponent :=
    if scaledQuotient top bottom exponent < significandBound then exponent else exponent + 1
  let significand := scaledQuotient top bottom exponent
  let (significand, exponent) :=
    if significand < significandBound then (significand, exponent)
    else (significand / 2, exponent + 1)
  if maxExponent < exponent then .infinite negative else .finite negative significand exponent

/-- The number nearest to a quotient. -/
def ofRatio (negative : Bool) (top bottom : Nat) : Binary64 :=
  if top == 0 then .finite negative 0 minExponent
  else normalize negative top bottom (exponentFor top bottom)

/-- The number nearest to a decimal one. Beyond the powers of ten named here every number is
infinite or zero, so their powers are not computed. -/
def ofNumeral (numeral : Text.Numeral) : Binary64 :=
  let bits : Int := numeral.significand.log2 + 1
  if numeral.significand == 0 then .finite numeral.negative 0 minExponent
  else if 400 < numeral.exponent then .infinite numeral.negative
  else if numeral.exponent + bits < -400 then .finite numeral.negative 0 minExponent
  else ofRatio numeral.negative (numeral.significand * power 10 numeral.exponent)
    (power 10 (-numeral.exponent))

/-- The names of the numbers that have no digits, in lower case. -/
def ofName? (negative : Bool) (name : String) : Option Binary64 :=
  if name == "inf" || name == "infinity" then some (.infinite negative)
  else if name == "nan" then some .nan
  else none

/-- An ASCII capital letter as a small one. -/
def smallLetter (char : Char) : Char :=
  if 'A' ≤ char && char ≤ 'Z' then Char.ofNat (char.toNat + 32) else char

/-- The number nearest to the one that a text denotes, if it denotes one. -/
def read? (text : String) : Option Binary64 :=
  let (negative, chars) := Text.sign (Text.trimWhile Text.isNumeralBlank text.toList)
  match ofName? negative (String.ofList (chars.map smallLetter)) with
  | some number => some number
  | none => (Text.readUnsigned? negative chars).map ofNumeral

end Binary64

end SerialCheck

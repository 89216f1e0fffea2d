import SerialCheck.Text.Numeral
import SerialCheck.Text.Word

/-!
# Numbers in a script

A number ends before what cannot belong to it. A number without an exponent that a letter
follows gives its last digit to the word that begins with it.
-/
namespace SerialCheck.Script

/-- The character is a decimal digit. -/
def isDigit (char : Char) : Bool := (Text.digitValue? char).isSome

/-- How many decimal digits stand at the front of a text. -/
def digitCount (chars : List Char) : Nat := (chars.takeWhile isDigit).length

/-- The text goes on with a letter or an underscore. -/
def lettersFollow (chars : List Char) : Bool :=
  chars.head?.any fun char => Text.startsName char || char == '_'

/-- The given number of digits without the last one if letters follow them. -/
def ownDigits (chars : List Char) (count : Nat) : Nat :=
  if lettersFollow (chars.drop count) then count - 1 else count

/-- The length of a number in base sixteen: a zero, the letter X and digits. -/
def hexLength? (chars : List Char) : Option Nat :=
  match Text.afterWord? ['0', 'X'] chars with
  | none => none
  | some rest =>
    let count := (rest.takeWhile fun char => isDigit char ||
      ('A' ≤ Text.capital char && Text.capital char ≤ 'F')).length
    if count == 0 then none else some (count + 2)

/-- The length of the fraction at the front of a text: a period and digits. -/
def fractionLength (chars : List Char) : Nat :=
  let count := digitCount (chars.drop 1)
  if chars.head? == some '.' && 0 < count then count + 1 else 0

/-- The length of a number with an exponent: digits, perhaps a fraction, the letter E and
digits behind it, perhaps with a minus sign. -/
def exponentialLength? (chars : List Char) : Option Nat :=
  let whole := digitCount chars
  let significand := whole + fractionLength (chars.drop whole)
  match Text.afterWord? ['E'] (chars.drop significand) with
  | none => none
  | some rest =>
    let sign := if rest.head? == some '-' then 1 else 0
    let exponent := digitCount (rest.drop sign)
    if whole == 0 || exponent == 0 then none else some (significand + 1 + sign + exponent)

/-- The length of a number with a period. A period behind which there is no digit needs digits
in front of it and no letters behind it. -/
def pointedLength? (chars : List Char) : Option Nat :=
  let whole := digitCount chars
  let rest := chars.drop whole
  if rest.head? == some '.' then
    let count := digitCount (rest.drop 1)
    let own := ownDigits (rest.drop 1) count
    if count == 0 && lettersFollow (rest.drop 1) then none
    else if whole == 0 && own == 0 then none
    else some (whole + 1 + own)
  else none

/-- The length of a whole number. -/
def wholeLength? (chars : List Char) : Option Nat :=
  let count := ownDigits chars (digitCount chars)
  if count == 0 then none else some count

/-- The length of the number that a text starts with, perhaps with a minus sign. -/
def numberLength? (chars : List Char) : Option Nat :=
  let sign := if chars.head? == some '-' then 1 else 0
  let chars := chars.drop sign
  let length := (hexLength? chars).or <| (exponentialLength? chars).or <|
    (pointedLength? chars).or (wholeLength? chars)
  length.map (sign + ·)

end SerialCheck.Script

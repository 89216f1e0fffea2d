import SerialCheck.Number.Binary64

/-!
# Shortest decimal text

A finite binary number is written with the fewest digits that read back as the same number;
of the candidates with that many digits the nearest one is taken, and the even one on a tie.
All comparisons are exact, in whole numbers.
-/
namespace SerialCheck.Binary64

/-- `left * 2 ^ binary` is at most `right * 10 ^ decimal`. -/
def atMost (left : Nat) (binary : Int) (right : Nat) (decimal : Int) : Bool :=
  left * power 2 binary * power 10 (-decimal) ≤ right * power 10 decimal * power 2 (-binary)

/-- `left * 2 ^ binary` is below `right * 10 ^ decimal`. -/
def below (left : Nat) (binary : Int) (right : Nat) (decimal : Int) : Bool :=
  left * power 2 binary * power 10 (-decimal) < right * power 10 decimal * power 2 (-binary)

/-- The least power of ten above `significand * 2 ^ exponent`. It is looked for from below an
estimate made with the logarithm of two. -/
def pointPosition (significand : Nat) (exponent : Int) : Int :=
  let estimate := Int.fdiv ((significand.log2 + exponent) * 30103) 100000 - 1
  let candidates := [0, 1, 2, 3, 4].map (estimate + ·)
  (candidates.find? fun power => below significand exponent 1 power).getD (estimate + 5)

/-- The decimal number `digits * 10 ^ place` reads back as `significand * 2 ^ exponent`: it
lies between the midpoints to the neighbours, which are included if the significand is even. -/
def readsBack (significand : Nat) (exponent : Int) (digits : Nat) (place : Int) : Bool :=
  let narrow := 2 * significand == significandBound && minExponent < exponent
  let low := 4 * significand - (if narrow then 1 else 2)
  let high := 4 * significand + 2
  if significand % 2 == 0 then
    atMost low (exponent - 2) digits place && !below high (exponent - 2) digits place
  else below low (exponent - 2) digits place && !atMost high (exponent - 2) digits place

/-- The whole part of `significand * 2 ^ exponent / 10 ^ place`. -/
def onGrid (significand : Nat) (exponent place : Int) : Nat :=
  significand * power 2 exponent * power 10 (-place) / (power 10 place * power 2 (-exponent))

/-- The point of the grid with step `10 ^ place` that reads back as the number, the nearer one
if both neighbours do. -/
def gridPoint? (significand : Nat) (exponent place : Int) : Option Nat :=
  let lower := onGrid significand exponent place
  let middle := 2 * lower + 1
  match readsBack significand exponent lower place,
      readsBack significand exponent (lower + 1) place with
  | true, false => some lower
  | false, true => some (lower + 1)
  | false, false => none
  | true, true =>
    if below significand (exponent + 1) middle place then some lower
    else if atMost significand (exponent + 1) middle place && lower % 2 == 0 then some lower
    else some (lower + 1)

/-- The first grid point found when the step shrinks by ten for each of the given digits. -/
def shortestFrom (significand : Nat) (exponent : Int) : Nat → Int → Nat × Int
  | 0, place => (onGrid significand exponent place, place)
  | digits + 1, place =>
    match gridPoint? significand exponent place with
    | some point => (point, place)
    | none => shortestFrom significand exponent digits (place - 1)

/-- The shortest decimal number that reads back, as digits and the place of the last one. -/
def shortest (significand : Nat) (exponent : Int) : Nat × Int :=
  shortestFrom significand exponent 17 (pointPosition significand exponent - 1)

/-- Where digits are written around a point and where with an exponent. -/
structure Layout where
  /-- The least position of the point that is written out. -/
  minPoint : Int
  /-- The greatest position of the point that is written out. -/
  maxPoint : Int
  /-- The least number of digits of an exponent. -/
  exponentDigits : Nat

/-- Positional notation from a ten-thousandth to below 10^16; exponents have two digits. -/
def layout : Layout := ⟨-3, 16, 2⟩

/-- Digits before a point that stands at a position relative to their front. -/
def positional (digits : List Char) (point : Int) : List Char :=
  if point ≤ 0 then '0' :: '.' :: List.replicate (-point).toNat '0' ++ digits
  else if digits.length ≤ point.toNat then
    digits ++ List.replicate (point.toNat - digits.length) '0' ++ ['.', '0']
  else digits.take point.toNat ++ '.' :: digits.drop point.toNat

/-- One digit, the other digits after a point, and the exponent with its sign. -/
def scientific (width : Nat) (digits : List Char) (exponent : Int) : List Char :=
  let magnitude := (toString exponent.natAbs).toList
  let padded := List.replicate (width - magnitude.length) '0' ++ magnitude
  let fraction := if digits.length ≤ 1 then [] else '.' :: digits.drop 1
  digits.take 1 ++ fraction ++ 'e' :: (if exponent < 0 then '-' else '+') :: padded

/-- The digits of a positive number laid out around their point. -/
def arrange (layout : Layout) (digits : List Char) (point : Int) : List Char :=
  if layout.minPoint ≤ point && point ≤ layout.maxPoint then positional digits point
  else scientific layout.exponentDigits digits (point - 1)

/-- The text of a number. -/
def text : Binary64 → String
  | .nan => "nan"
  | .infinite negative => if negative then "-inf" else "inf"
  | .finite negative significand exponent =>
    let unsigned :=
      if significand == 0 then ['0', '.', '0']
      else
        let (digits, place) := shortest significand exponent
        let written := (toString digits).toList
        arrange layout (Text.dropEndWhile (· == '0') written) (written.length + place)
    String.ofList (if negative then '-' :: unsigned else unsigned)

end SerialCheck.Binary64

import SerialCheck.Number.Decimal.Order

/-!
# Sums of decimal numbers

Sums and products have at most `precision` digits: the exact result is rounded to them, an exact
half to the even neighbour. A result whose first digit would stand too high is refused, and one
that is too fine loses digits at `finest`.
-/
namespace SerialCheck.Decimal

/-- Why two decimal numbers have no sum. -/
inductive Unsummable where
  /-- An operand is a signal, or infinities of different signs are added. -/
  | undefined
  /-- The sum is too large. -/
  | tooLarge
  deriving Repr, DecidableEq

/-- How many digits a result has at most. -/
def precision : Nat := 28

/-- The greatest power of ten of the first digit of a result. -/
def maxResultLeading : Int := 999999

/-- The least exponent of a result. -/
def finest : Int := -1000026

/-- A coefficient with digits taken off its end, an exact half going to the even neighbour. -/
def shorten (coefficient : Nat) (digits : Int) : Nat :=
  if (width coefficient : Int) < digits then 0
  else Binary64.nearestQuotient coefficient (Binary64.power 10 digits)

/-- The result for an exact one, which is rounded. -/
def round (negative : Bool) (coefficient : Nat) (exponent : Int) : Except Unsummable Decimal :=
  if coefficient = 0 then
    .ok (.finite negative 0 (min (max exponent finest) maxResultLeading))
  else
    let least := max finest (leading coefficient exponent + 1 - precision)
    let (coefficient, exponent) :=
      if exponent < least then (shorten coefficient (least - exponent), least)
      else (coefficient, exponent)
    let (coefficient, exponent) :=
      if precision < width coefficient then (coefficient / 10, exponent + 1)
      else (coefficient, exponent)
    if maxResultLeading < leading coefficient exponent then .error .tooLarge
    else .ok (.finite negative coefficient exponent)

/-- A coefficient with zeros put behind it down to an exponent, but at most one zero more than a
result has digits. -/
def padded (negative : Bool) (coefficient : Nat) (own exponent : Int) : Except Unsummable Decimal :=
  let exponent := max (min own exponent) (own - precision - 1)
  round negative (coefficient * Binary64.power 10 (own - exponent)) exponent

/-- A coefficient with its exponent that can take the place of a finer one in a sum with a coarser
one: if it is too small to be seen in the result, a single digit stands for it. -/
def visible (coarse : Nat) (coarseExponent : Int) (fine : Nat) (fineExponent : Int) : Nat × Int :=
  let limit := coarseExponent + min (-1) (width coarse - precision - 2 : Int)
  if leading fine fineExponent < limit then (1, limit) else (fine, fineExponent)

/-- A whole number of steps with its sign. -/
def steps (negative : Bool) (magnitude : Nat) : Int := if negative then -magnitude else magnitude

/-- The sum of two numbers that are not zero, of which the first one has the greater exponent. -/
def addFiner (negative : Bool) (coarse : Nat) (coarseExponent : Int) (other : Bool) (fine : Nat)
    (fineExponent : Int) : Except Unsummable Decimal :=
  let (fine, exponent) := visible coarse coarseExponent fine fineExponent
  let sum :=
    steps negative (coarse * Binary64.power 10 (coarseExponent - exponent)) + steps other fine
  round (sum < 0) sum.natAbs (if sum = 0 then fineExponent else exponent)

/-- The sum of two numbers. -/
def add : Decimal → Decimal → Except Unsummable Decimal
  | .finite left coefficient exponent, .finite right other otherExponent =>
    if coefficient = 0 && other = 0 then
      round (left && right) 0 (min exponent otherExponent)
    else if coefficient = 0 then padded right other otherExponent exponent
    else if other = 0 then padded left coefficient exponent otherExponent
    else if exponent < otherExponent then
      addFiner right other otherExponent left coefficient exponent
    else addFiner left coefficient exponent right other otherExponent
  | .nan left signalling payload, right =>
    if signalling || right.isSignal then .error .undefined else .ok (.nan left false payload)
  | _, .nan right signalling payload =>
    if signalling then .error .undefined else .ok (.nan right false payload)
  | .infinite left, .infinite right =>
    if left = right then .ok (.infinite left) else .error .undefined
  | .infinite left, _ => .ok (.infinite left)
  | _, .infinite right => .ok (.infinite right)

/-- A whole multiple of a number. -/
def times (count : Nat) : Decimal → Except Unsummable Decimal
  | .finite negative coefficient exponent => round negative (count * coefficient) exponent
  | .nan negative signalling payload =>
    if signalling then .error .undefined else .ok (.nan negative false payload)
  | number => .ok number

/-- The whole number that a finite number is truncated to, zero if there is none. -/
def truncated : Decimal → Int
  | .finite negative coefficient exponent =>
    if coefficient = 0 || leading coefficient exponent < 0 then 0
    else
      steps negative
        (coefficient * Binary64.power 10 exponent / Binary64.power 10 (-exponent))
  | _ => 0

end SerialCheck.Decimal

import SerialCheck.Number.Decimal

/-!
# The order of decimal numbers

Decimal numbers are compared by their exact values. Their powers of ten may be huge, so the places
of their first digits are compared before the digits themselves are brought to one exponent.
-/
namespace SerialCheck.Decimal

/-- The number is not a number. -/
def isNan : Decimal → Bool
  | .nan .. => true
  | _ => false

/-- The number is a signal that it should not be used. -/
def isSignal : Decimal → Bool
  | .nan _ signalling _ => signalling
  | _ => false

/-- The number is zero. -/
def isZero : Decimal → Bool
  | .finite _ coefficient _ => coefficient == 0
  | _ => false

/-- The sign of a number, twice as far from zero for an infinity. -/
def rank : Decimal → Int
  | .nan .. => 0
  | .infinite negative => if negative then -2 else 2
  | .finite negative coefficient _ => if coefficient = 0 then 0 else if negative then -1 else 1

/-- The order of two positive numbers. -/
def compareMagnitudes (left : Nat) (leftExponent : Int) (right : Nat) (rightExponent : Int) :
    Ordering :=
  let least := min leftExponent rightExponent
  match compare (leading left leftExponent) (leading right rightExponent) with
  | .eq =>
    compare (left * Binary64.power 10 (leftExponent - least))
      (right * Binary64.power 10 (rightExponent - least))
  | order => order

/-- The order of two numbers of the same rank. -/
def compareWithin : Decimal → Decimal → Ordering
  | .finite false left leftExponent, .finite _ right rightExponent =>
    if left = 0 then .eq else compareMagnitudes left leftExponent right rightExponent
  | .finite true left leftExponent, .finite _ right rightExponent =>
    if left = 0 then .eq else compareMagnitudes right rightExponent left leftExponent
  | _, _ => .eq

/-- The order of two numbers, none if one of them is not a number. -/
def order? (left right : Decimal) : Option Ordering :=
  if left.isNan || right.isNan then none
  else
    match compare left.rank right.rank with
    | .eq => some (compareWithin left right)
    | order => some order

end SerialCheck.Decimal

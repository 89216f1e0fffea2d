import SerialCheck.Number
import SerialCheck.Number.Decimal.Sum

/-!
# Sums of numbers

The sum of two binary numbers is the binary number nearest to the exact sum, which is found on
the finer of their two grids. A whole number takes part in such a sum as the binary number
nearest to it, and only if there is a finite one; whole numbers alone are added exactly. A
decimal number is added to whole and decimal numbers only.
-/
namespace SerialCheck

namespace Binary64

/-- The binary number nearest to a whole one. -/
def ofInt (value : Int) : Binary64 := ofRatio (value < 0) value.natAbs 1

/-- A signed number of steps on a grid that is finer by the given exponent. -/
def steps (negative : Bool) (significand : Nat) (finer : Int) : Int :=
  let count : Int := significand * power 2 finer
  if negative then -count else count

/-- The binary number nearest to a sum. -/
def add : Binary64 → Binary64 → Binary64
  | .nan, _ | _, .nan => .nan
  | .infinite left, .infinite right => if left == right then .infinite left else .nan
  | .infinite left, _ => .infinite left
  | _, .infinite right => .infinite right
  | .finite left significand exponent, .finite right other otherExponent =>
    let grid := min exponent otherExponent
    let sum := steps left significand (exponent - grid) + steps right other (otherExponent - grid)
    if sum = 0 then .finite (left && right) 0 minExponent
    else ofRatio (sum < 0) (sum.natAbs * power 2 grid) (power 2 (-grid))

/-- The binary number nearest to a whole multiple. -/
def times (count : Nat) : Binary64 → Binary64
  | .finite negative significand exponent =>
    ofRatio negative (count * significand * power 2 exponent) (power 2 (-exponent))
  | value => value

end Binary64

namespace Number

/-- Why two numbers have no sum. -/
inductive Unsummable where
  /-- A whole number is beyond all binary ones. -/
  | tooLarge
  /-- One number is binary and the other one decimal. -/
  | mixed
  /-- The decimal numbers have none. -/
  | decimal (cause : Decimal.Unsummable)
  deriving Repr, DecidableEq

/-- The binary number nearest to a whole one, if that is finite. -/
def binaryOf (value : Int) : Except Unsummable Binary64 :=
  match Binary64.ofInt value with
  | .finite negative significand exponent => .ok (.finite negative significand exponent)
  | _ => .error .tooLarge

/-- The sum of two numbers. -/
def add : Number → Number → Except Unsummable Number
  | .whole left, .whole right => .ok (.whole (left + right))
  | .binary left, .binary right => .ok (.binary (left.add right))
  | .whole left, .binary right => do return .binary ((← binaryOf left).add right)
  | .binary left, .whole right => do return .binary (left.add (← binaryOf right))
  | .binary _, .decimal _ | .decimal _, .binary _ => .error .mixed
  | left, right => ((left.toDecimal.add right.toDecimal).map .decimal).mapError .decimal

/-- A whole multiple of a number. -/
def times (count : Nat) : Number → Except Unsummable Number
  | .whole value => .ok (.whole (count * value))
  | .binary value => .ok (.binary (value.times count))
  | .decimal value => ((value.times count).map .decimal).mapError .decimal

/-- The greatest whole number that is not above a number that is not negative, zero if there is
none. -/
def floor : Number → Nat
  | .whole value => value.toNat
  | .binary value =>
    match value.quantity with
    | .finite value => value.floor.toNat
    | _ => 0
  | .decimal value => value.truncated.toNat

end Number

end SerialCheck

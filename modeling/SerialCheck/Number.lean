import SerialCheck.Number.Decimal.Order
import SerialCheck.Number.Shortest

/-!
# Numbers

Settings, timeouts and probabilities are whole numbers of any size, binary numbers or decimal ones.
They are compared by their exact values; a comparison with something that is not a number is
false.
-/
namespace SerialCheck

/-- An exact quantity, or one of the three values without a magnitude. -/
inductive Quantity where
  /-- Below every other quantity. -/
  | minusInfinity
  /-- An exact rational number. -/
  | finite (value : Rat)
  /-- Above every other quantity. -/
  | infinity
  /-- Not comparable with anything. -/
  | nan
  deriving Repr, DecidableEq

namespace Quantity

/-- The order of quantities, false if one of them is not a number. -/
def le : Quantity → Quantity → Bool
  | .nan, _ => false
  | _, .nan => false
  | .minusInfinity, _ => true
  | _, .infinity => true
  | .finite left, .finite right => left ≤ right
  | _, _ => false

/-- The strict order of quantities, false if one of them is not a number. -/
def lt : Quantity → Quantity → Bool
  | .nan, _ => false
  | _, .nan => false
  | .finite left, .finite right => left < right
  | .minusInfinity, other => other != .minusInfinity
  | other, .infinity => other != .infinity
  | _, _ => false

end Quantity

namespace Binary64

/-- The exact value of a binary number. -/
def quantity : Binary64 → Quantity
  | .nan => .nan
  | .infinite negative => if negative then .minusInfinity else .infinity
  | .finite negative significand exponent =>
    let magnitude := mkRat (significand * power 2 exponent) (power 2 (-exponent))
    .finite (if negative then -magnitude else magnitude)

/-- A significand that is halved as long as it is even, at most as often as given, and how often it
was not. -/
def halved : Nat → Nat → Nat × Nat
  | significand, 0 => (significand, 0)
  | significand, count + 1 =>
    if significand % 2 == 0 then halved (significand / 2) count else (significand, count + 1)

/-- The decimal number of exactly the same value, with as few digits behind the point as it
needs. -/
def toDecimal : Binary64 → Decimal
  | .nan => .nan false false ""
  | .infinite negative => .infinite negative
  | .finite negative significand exponent =>
    let (significand, places) := halved significand (-exponent).toNat
    .finite negative (significand * power 2 exponent * Nat.pow 5 places) (-places)

end Binary64

/-- A whole number, a binary one or a decimal one. -/
inductive Number where
  /-- A whole number of any size. -/
  | whole (value : Int)
  /-- A binary number. -/
  | binary (value : Binary64)
  /-- A decimal number. -/
  | decimal (value : Decimal)
  deriving Repr, DecidableEq

namespace Number

/-- The exact value of a number, none for a decimal one, whose magnitude may be beyond all
reach. -/
def quantity? : Number → Option Quantity
  | .whole value => some (.finite value)
  | .binary value => some value.quantity
  | .decimal _ => none

/-- The decimal number of exactly the same value. -/
def toDecimal : Number → Decimal
  | .whole value => .finite (value < 0) value.natAbs 0
  | .binary value => value.toDecimal
  | .decimal value => value

/-- The order of numbers by their exact values. -/
def le (left right : Number) : Bool :=
  match left.quantity?, right.quantity? with
  | some left, some right => left.le right
  | _, _ => (left.toDecimal.order? right.toDecimal).any (·.isLE)

/-- The strict order of numbers by their exact values. -/
def lt (left right : Number) : Bool :=
  match left.quantity?, right.quantity? with
  | some left, some right => left.lt right
  | _, _ => (left.toDecimal.order? right.toDecimal).any (·.isLT)

/-- The numbers have the same value. -/
def same (left right : Number) : Bool := left.le right && right.le left

/-- The number is a decimal one. -/
def isDecimal : Number → Bool
  | .decimal _ => true
  | _ => false

/-- One of two numbers is a decimal one and one of them is not a number. -/
def isMuddled (left right : Number) : Bool :=
  (left.isDecimal || right.isDecimal) && (left.toDecimal.isNan || right.toDecimal.isNan)

/-- One of two numbers is a decimal one that is a signal. -/
def isSignalled (left right : Number) : Bool :=
  left.toDecimal.isSignal || right.toDecimal.isSignal

/-- The later of two numbers; the first one if they cannot be compared. -/
def latest (first second : Number) : Number := if first.lt second then second else first

/-- The earlier of two numbers; the first one if they cannot be compared. -/
def earliest (first second : Number) : Number := if second.lt first then second else first

end Number

end SerialCheck

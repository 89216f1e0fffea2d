import SerialCheck.Number.Sum
import SerialCheck.Value.Misuse

/-!
# The order of values

Numbers of all kinds are compared by their exact values, texts by code points, byte strings by
bytes, and rows and arrays by their first different members. Values of other kinds have no
order.
-/
namespace SerialCheck

namespace Value

/-- The number that a value is. A truth value is one or zero. -/
def number? : Value → Option Number
  | .boolean value => some (.whole (if value then 1 else 0))
  | .integer value => some (.whole value)
  | .real value => some (.binary value)
  | .decimal value => some (.decimal value)
  | _ => none

/-- The numbers have the same value, a misuse if one of them is a signal. -/
def equalNumbers (left right : Value) : Except Misuse Bool :=
  match left.number?, right.number? with
  | some left, some right =>
    if left.isSignalled right then .error .undefined else .ok (left.same right)
  | _, _ => .ok false

mutual

/-- Two values are equal. Numbers of different kinds can be. -/
def equal : Value → Value → Except Misuse Bool
  | .null, .null => .ok true
  | .text left, .text right => .ok (left == right)
  | .bytes left, .bytes right | .bytes left, .buffer right => .ok (left == right)
  | .buffer left, .bytes right | .buffer left, .buffer right => .ok (left == right)
  | .row left, .row right => equalMembers left right
  | .array left, .array right =>
    if left.length = right.length then equalMembers left right else .ok false
  | .mapping left, .mapping right =>
    if left.length = right.length then equalEntries left right else .ok false
  | left, right => equalNumbers left right

/-- The members of two lists are equal. -/
def equalMembers : List Value → List Value → Except Misuse Bool
  | [], [] => .ok true
  | left :: lefts, right :: rights => do
    if ← equal left right then equalMembers lefts rights else return false
  | _, _ => .ok false

/-- The named values are equal to those of the same names. -/
def equalEntries : List (String × Value) → List (String × Value) → Except Misuse Bool
  | [], _ => .ok true
  | (name, value) :: entries, others => do
    match others.lookup name with
    | none => return false
    | some other => if ← equal value other then equalEntries entries others else return false

end

/-- Two values are known to be equal. -/
def same (left right : Value) : Bool := (equal left right).toOption.getD false

/-- The relations by which values are ordered. -/
inductive Relation where
  /-- The first one is below the second one. -/
  | below
  /-- The first one is not above the second one. -/
  | atMost
  /-- The first one is above the second one. -/
  | above
  /-- The first one is not below the second one. -/
  | atLeast
  deriving Repr, DecidableEq

namespace Relation

/-- The sign of a relation. -/
def symbol : Relation → String
  | .below => "<"
  | .atMost => "<="
  | .above => ">"
  | .atLeast => ">="

/-- The relation holds between numbers. -/
def holds : Relation → Number → Number → Bool
  | .below, left, right => left.lt right
  | .atMost, left, right => left.le right
  | .above, left, right => right.lt left
  | .atLeast, left, right => right.le left

/-- The relation holds between values of one linear order. -/
def holdsBy {α : Type} (less : α → α → Bool) : Relation → α → α → Bool
  | .below, left, right => less left right
  | .atMost, left, right => !less right left
  | .above, left, right => less right left
  | .atLeast, left, right => !less left right

/-- The relation holds between a value and itself. -/
def isReflexive : Relation → Bool
  | .below | .above => false
  | .atMost | .atLeast => true

/-- The relation holds between a list and a longer one that begins with it. -/
def isUpward : Relation → Bool
  | .below | .atMost => true
  | .above | .atLeast => false

end Relation

/-- The relation between numbers of any kinds, a misuse for other values. -/
def compareNumbers (relation : Relation) (left right : Value) : Except Misuse Bool :=
  match left.number?, right.number? with
  | some left, some right =>
    if left.isMuddled right then .error .undefined else .ok (relation.holds left right)
  | _, _ => .error (.order relation.symbol left.kindName right.kindName)

mutual

/-- The relation holds between two values. -/
def compare (relation : Relation) : Value → Value → Except Misuse Bool
  | .text left, .text right => .ok (relation.holdsBy (fun left right => left < right) left right)
  | .bytes left, .bytes right => .ok (relation.holdsBy (fun left right => left < right) left right)
  | .row left, .row right => compareMembers relation left right
  | .array left, .array right => compareMembers relation left right
  | left, right => compareNumbers relation left right

/-- The relation holds between two lists of values. -/
def compareMembers (relation : Relation) : List Value → List Value → Except Misuse Bool
  | [], [] => .ok relation.isReflexive
  | [], _ :: _ => .ok relation.isUpward
  | _ :: _, [] => .ok !relation.isUpward
  | left :: lefts, right :: rights => do
    if ← equal left right then compareMembers relation lefts rights
    else compare relation left right

end

/-- The first value is below the second one. -/
def isBelow : Value → Value → Except Misuse Bool := compare .below

/-- The first value is not above the second one. -/
def isAtMost : Value → Value → Except Misuse Bool := compare .atMost

/-- The first value is above the second one. -/
def isAbove : Value → Value → Except Misuse Bool := compare .above

/-- The first value is not below the second one. -/
def isAtLeast : Value → Value → Except Misuse Bool := compare .atLeast

end Value

end SerialCheck

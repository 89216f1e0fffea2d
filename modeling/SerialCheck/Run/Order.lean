import SerialCheck.Trace
import SerialCheck.Value.Use

/-!
# Serial orders

In which orders the transactions of a batch are replayed. The preferred order is the one in
which they took their snapshots in the test run; after it come the other permutations in
lexicographic order of positions, up to a limit.
-/
namespace SerialCheck.Order

/-- The list has a member that is alike to the value. -/
def has (members : List Value) (value : Value) : Bool := members.any (·.alike value)

/-- The list with a member added at its end, unless it has it. -/
def addNew (members : List Value) (member : Value) : List Value :=
  if has members member then members else members ++ [member]

/-- The different members of a list by first occurrence. -/
def firstOccurrences (members : List Value) : List Value := members.foldl addNew []

/-- The order in which a batch is replayed: by snapshots of the reference, then by ends, then
as generated. Without a reference it is as generated. -/
def preferred (ids : List Value) : Option Trace → List Value
  | none => ids
  | some reference =>
    firstOccurrences
      ((reference.snapshotOrder ++ reference.completionOrder ++ ids).filter (has ids))

variable {α : Type}

/-- Each member of a list with the other ones in order. -/
def picks : List α → List (α × List α)
  | [] => []
  | head :: tail => (head, tail) :: (picks tail).map fun (member, rest) => (member, head :: rest)

/-- The permutations of a list in lexicographic order of positions; the number is its
length. -/
def permutations : Nat → List α → List (List α)
  | 0, _ => [[]]
  | length + 1, members =>
    (picks members).flatMap fun (member, rest) =>
      (permutations length rest).map (member :: ·)

/-- Permutations of the rest behind chosen members, which are given in reverse, without those
that are alike to the excluded one and at most as many as there is room for. The permutations are
not all made first. -/
def search (excluded : List Value) : Nat → List Value → List Value → Nat → List (List Value)
  | _, _, _, 0 => []
  | 0, chosen, _, _ + 1 =>
    if Value.allAlike chosen.reverse excluded then [] else [chosen.reverse]
  | length + 1, chosen, rest, room + 1 =>
    (picks rest).foldl
      (fun found (member, others) =>
        found ++ search excluded length (member :: chosen) others (room + 1 - found.length))
      []

/-- The candidate orders: the preferred one and other permutations of it, at most as many as
the limit but at least the preferred one. -/
def candidates (limit : Int) (order : List Value) : List (List Value) :=
  order :: search order order.length [] order (limit.toNat - 1)

/-- The number of permutations of a list with as many members as given. -/
def permutationCount : Nat → Nat
  | 0 => 1
  | length + 1 => (length + 1) * permutationCount length

/-- The least whole number that a decimal limit admits, but at most the given one. -/
def decimalLimit (limit : Decimal) (greatest : Nat) : Except Misuse Int :=
  if limit.isNan then .error .undefined
  else if limit.rank ≤ 0 then .ok 0
  else if (Number.whole greatest).lt (.decimal limit) then .ok greatest
  else
    let whole := limit.truncated
    .ok (if (Number.whole whole).lt (.decimal limit) then whole + 1 else whole)

/-- The limit that a value sets on the number of orders. One that no number reaches admits all
permutations. -/
def limitOf (value : Value) (length : Nat) : Except Misuse Int :=
  match value.number? with
  | some (.whole limit) => .ok limit
  | some (.binary limit) =>
    match limit.quantity with
    | .finite limit => .ok limit.ceil
    | .minusInfinity => .ok 0
    | .infinity | .nan => .ok (permutationCount length)
  | some (.decimal limit) => decimalLimit limit (permutationCount length)
  | none => .error (.order ">=" "int" value.kindName)

end SerialCheck.Order

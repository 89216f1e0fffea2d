import SerialCheck.Fault
import SerialCheck.Random.Seed
import SerialCheck.Random.Source

/-!
# Random choices

The choices that generators make. Numbers and texts drawn earlier are remembered and drawn
again now and then, so that generated statements meet on the same keys.
-/
namespace SerialCheck

/-- A source of random numbers with the numbers and texts drawn from it. -/
structure Randomness where
  /-- The seed of the source. -/
  seed : Value
  /-- The source. -/
  source : Source
  /-- Remembered numbers, the latest one last. -/
  numbers : List Int := []
  /-- Remembered texts, the latest one last. -/
  texts : List String := []
  /-- Remembered members of ranges whose bounds may be of any kind, the latest one last. -/
  members : List Value := []

/-- A choice that cannot fail. -/
abbrev Draw (α : Type) := StateM Randomness α

/-- A choice that fails if there is nothing to choose. -/
abbrev Attempt (α : Type) := ExceptT GenerationFault (StateM Randomness) α

/-- Randomness from a seed, with words to be delivered first. -/
def Randomness.ofSeed (seed : Int) (given : List UInt32) : Randomness :=
  { seed := .integer seed, source := .ofSeed seed given }

/-- Randomness from a seed that may be a value, with words to be delivered first. -/
def Randomness.ofValue (seed : Value) (given : List UInt32) : Except Misuse Randomness := do
  return { seed, source := .ofSeed (← Seed.ofValue seed) given }

namespace Draw

/-- The result of drawing from the source. -/
def fromSource {α : Type} (draw : Source → α × Source) : Draw α := fun randomness =>
  let (value, source) := draw randomness.source
  (value, { randomness with source })

/-- A number below a positive bound. -/
def below (bound : Nat) : Draw Nat := fromSource (·.below bound)

/-- True with the given probability. -/
def chance (probability : Binary64) : Draw Bool := do
  let numerator ← fromSource Source.fraction
  return (Quantity.finite (mkRat numerator Binary64.significandBound)).lt probability.quantity

/-- True as often as not. -/
def coin : Draw Bool := chance .half

/-- The binary number nearest to one tenth. -/
def oneTenth : Binary64 := .finite false 7205759403792794 (-56)

/-- True rather seldom. -/
def seldom : Draw Bool := chance oneTenth

/-- A number from the lower bound to below the upper one; the lower bound if there is none. -/
def fresh (lower upper : Int) : Draw Int :=
  if upper ≤ lower then pure lower
  else do
    let offset ← below (upper - lower).toNat
    return lower + offset

/-- One of the given values. -/
def oneOf {α : Type} (first : α) (others : List α) : Draw α := do
  let position ← below (others.length + 1)
  return (first :: others).getD position first

/-- How many numbers, and how many texts, are remembered. -/
def memorySize : Nat := 100

/-- A memory with one more member, the oldest one being forgotten if it is full. -/
def remember {α : Type} (memory : List α) (value : α) : List α :=
  (if memory.length < memorySize then memory else memory.drop 1) ++ [value]

/-- One of the remembered values, if there are any and a coin falls that way. -/
def knownMember? {α : Type} : List α → Draw (Option α)
  | [] => pure none
  | first :: others => do
    if ← coin then return some (← oneOf first others) else return none

/-- A number between the bounds or one drawn before. -/
def number (lower upper : Int) : Draw Int := do
  match ← knownMember? (← get).numbers with
  | some value => return value
  | none =>
    let value ← fresh lower upper
    modify fun randomness => { randomness with numbers := remember randomness.numbers value }
    return value

/-- The letters of drawn texts. -/
def letters : List Char := "bcdefghijklmnopqrstuvwxyz".toList

/-- As many letters as asked for. -/
def word : Nat → Draw (List Char)
  | 0 => pure []
  | length + 1 => do
    let letter ← oneOf 'a' letters
    return letter :: (← word length)

/-- A text of at most the given length, or one drawn before. -/
def text (maxLength : Int) : Draw String := do
  match ← knownMember? (← get).texts with
  | some value => return value
  | none =>
    let length ← fresh 0 (maxLength + 1)
    let value := String.ofList (← word length.toNat)
    modify fun randomness => { randomness with texts := remember randomness.texts value }
    return value

/-- A drawn position that has not been drawn before, looked for among as many draws as given;
the least one if none of them is new. -/
def newPosition (size : Nat) (drawn : List Nat) : Nat → Draw Nat
  | 0 => pure (((List.range size).find? fun position => !drawn.contains position).getD 0)
  | draws + 1 => do
    let position ← below size
    if drawn.contains position then newPosition size drawn draws else return position

/-- As many new positions as asked for, in the order in which they were drawn. -/
def newPositions (size : Nat) : Nat → List Nat → Draw (List Nat)
  | 0, drawn => pure drawn
  | count + 1, drawn => do
    let position ← newPosition size drawn (size * Source.patience)
    newPositions size count (drawn ++ [position])

/-- As many members of a pool as asked for. The last member of the pool takes the place of the
drawn one. -/
def poolMembers {α : Type} : Nat → List α → Draw (List α)
  | 0, _ => pure []
  | count + 1, pool => do
    let position ← below pool.length
    match pool[position]?, pool.getLast? with
    | some member, some last =>
      return member :: (← poolMembers count ((pool.set position last).dropLast))
    | _, _ => return []

/-- The least power of four that is at least the given number, looked for upward from a power
in as many steps as given. -/
def powerOfFour (target : Nat) : Nat → Nat → Nat
  | 0, power => power
  | steps + 1, power => if target ≤ power then power else powerOfFour target steps (4 * power)

/-- The greatest size of a list that is sampled through a pool of its members. -/
def poolLimit (count : Nat) : Nat :=
  21 + if 5 < count then powerOfFour (3 * count) (3 * count) 1 else 0

/-- A sample of the members of a list, without repeated positions. -/
def sample {α : Type} (members : List α) (count : Nat) : Draw (List α) :=
  if members.length ≤ poolLimit count then poolMembers count members
  else do
    let positions ← newPositions members.length count []
    return positions.filterMap (members[·]?)

end Draw

namespace Attempt

/-- One member of a list. -/
def member {α : Type} : List α → Attempt α
  | [] => throw .emptyChoice
  | first :: others => liftM (Draw.oneOf first others)

/-- Some members of a list, at different positions. -/
def subset {α : Type} (members : List α) : Attempt (List α) :=
  if members.isEmpty then throw .emptySubset
  else do
    let count ← (Draw.fresh 1 (members.length + 1) : Draw Int)
    (Draw.sample members count.toNat : Draw (List α))

end Attempt

end SerialCheck

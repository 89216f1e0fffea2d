import SerialCheck.Random.Draw

/-!
# Choices between values

Random choices whose bounds are values of any kind, for instance settings. A bound of a kind that
does not fit is a misuse; it shows only when the bound is used, so what was drawn before stays
drawn.
-/
namespace SerialCheck.Attempt

/-- The result of the use of a value. -/
def use {α : Type} : Except Misuse α → Attempt α
  | .ok result => pure result
  | .error cause => throw (.misuse cause)

/-- A whole number from the lower bound to below the upper one; the lower bound itself if there
is none. -/
def between (lower upper : Value) : Attempt Value := do
  if ← use (upper.isAtMost lower) then return lower
  else
    let least ← use (lower.bound "arg 1")
    let beyond ← use (upper.bound "stop")
    return .integer (← (Draw.fresh least beyond : Draw Int))

/-- A whole number between the bounds or one drawn so before. -/
def number (lower upper : Value) : Attempt Value := do
  match ← (Draw.knownMember? (← get).members : Draw (Option Value)) with
  | some value => return value
  | none =>
    let value ← between lower upper
    modify fun randomness => { randomness with members := Draw.remember randomness.members value }
    return value

/-- A text of at most the given length, or one drawn before. -/
def text (maxLength : Value) : Attempt String := do
  match ← (Draw.knownMember? (← get).texts : Draw (Option String)) with
  | some value => return value
  | none =>
    let beyond ← use maxLength.successor
    let length ← use (← between (.integer 0) beyond).count
    let value := String.ofList (← (Draw.word length.toNat : Draw (List Char)))
    modify fun randomness => { randomness with texts := Draw.remember randomness.texts value }
    return value

/-- True with the given probability. -/
def chance (probability : Value) : Attempt Bool := do
  let numerator ← (Draw.fromSource Source.fraction : Draw Nat)
  use ((Value.real (.finite false numerator (-53))).isBelow probability)

end SerialCheck.Attempt

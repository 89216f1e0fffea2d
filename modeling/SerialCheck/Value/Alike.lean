import SerialCheck.Value.Identity
import SerialCheck.Value.Order

/-!
# Alike values

What is looked up by a value is found under every value that is alike: one that is identical to
it or equal, as `1`, `1.0` and true are. Every value is alike to itself, also one that is equal
to nothing, and whole numbers and texts are alike only to themselves among their own kinds.
-/
namespace SerialCheck.Value

/-- The values are identical or known to be equal. -/
def alike (left right : Value) : Bool := decide (left = right) || left.same right

/-- Every value is alike to itself. -/
theorem alike_refl (value : Value) : value.alike value = true := by simp [alike]

/-- Whole numbers are alike only if they are equal. -/
theorem alike_integer (left right : Int) :
    alike (.integer left) (.integer right) = decide (left = right) := by
  by_cases agree : left = right
  · simp [agree, alike_refl]
  · have apart : (left : Rat) ≤ right → ¬(right : Rat) ≤ left := by
      simp only [Rat.intCast_le_intCast]; omega
    simpa [alike, same, equal, agree, equalNumbers, number?, Number.isSignalled, Number.same,
      Number.le, Number.quantity?, Number.toDecimal, Decimal.isSignal, Except.toOption,
      Quantity.le] using apart

/-- Texts are alike only if they are equal. -/
theorem alike_text (left right : String) :
    alike (.text left) (.text right) = decide (left = right) := by
  by_cases agree : left = right <;> simp [alike, same, equal, Except.toOption, agree]

/-- Members at equal places are alike, and there are as many on both sides. -/
def allAlike : List Value → List Value → Bool
  | [], [] => true
  | left :: lefts, right :: rights => left.alike right && allAlike lefts rights
  | _, _ => false

/-- Every list is alike to itself. -/
theorem allAlike_refl (values : List Value) : allAlike values values = true := by
  induction values with
  | nil => rfl
  | cons head tail hypothesis => simp [allAlike, alike_refl, hypothesis]

/-- What is listed first under a value. -/
def lookup {α : Type} (key : Value) : List (Value × α) → Option α
  | [] => none
  | (other, item) :: rest => if other.alike key then some item else lookup key rest

/-- A list with an item put under a value: in place of what is listed there, or at the end. -/
def put {α : Type} (key : Value) (item : α) (entries : List (Value × α)) : List (Value × α) :=
  if (lookup key entries).isSome then
    entries.map fun entry => if entry.1.alike key then (entry.1, item) else entry
  else entries ++ [(key, item)]

end SerialCheck.Value

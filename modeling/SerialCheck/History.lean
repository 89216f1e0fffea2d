/-!
# Histories

A history is a list to which entries are added at the end. It is stored with the latest entry
first; every statement about it goes through `toList`, which has the entries in the order in
which they were added.
-/
namespace SerialCheck

/-- Entries in the order in which they were added. -/
structure History (α : Type) where
  /-- The entries, the latest one first. -/
  latestFirst : List α := []

namespace History

variable {α : Type}

/-- The entries in the order in which they were added. -/
def toList (history : History α) : List α := history.latestFirst.reverse

/-- No entries. -/
def empty : History α := ⟨[]⟩

/-- One more entry at the end. -/
def push (history : History α) (entry : α) : History α := ⟨entry :: history.latestFirst⟩

/-- The entries added after the given number of them. -/
def since (history : History α) (count : Nat) : List α :=
  (history.latestFirst.take (history.latestFirst.length - count)).reverse

/-- The number of entries. -/
def size (history : History α) : Nat := history.latestFirst.length

/-- A history without entries lists nothing. -/
@[simp] theorem toList_empty : (empty : History α).toList = [] := rfl

/-- A new entry comes last. -/
@[simp] theorem toList_push (history : History α) (entry : α) :
    (history.push entry).toList = history.toList ++ [entry] := by
  simp [toList, push]

/-- The entries after a count are what the list has after so many of its first entries. -/
theorem since_eq_drop (history : History α) (count : Nat) :
    history.since count = history.toList.drop count := by
  rw [since, toList, List.reverse_take]
  by_cases within : count ≤ history.latestFirst.length
  · rw [Nat.sub_sub_self within]
  · rw [List.drop_eq_nil_of_le (by simp; omega), List.drop_eq_nil_of_le (by simp; omega)]

end History

end SerialCheck

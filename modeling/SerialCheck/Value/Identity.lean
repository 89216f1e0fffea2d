import SerialCheck.Value

/-!
# The identity of values

Two values are identical if they are built in the same way; this is decided member by member. It
is finer than the equality of values as numbers, which does not tell `1` from `1.0`.
-/
namespace SerialCheck.Value

mutual

/-- The values are built in the same way. -/
def identical : Value → Value → Bool
  | .null, .null => true
  | .boolean left, .boolean right => left == right
  | .integer left, .integer right => left == right
  | .real left, .real right => left == right
  | .decimal left, .decimal right => left == right
  | .text left, .text right => left == right
  | .bytes left, .bytes right => left == right
  | .buffer left, .buffer right => left == right
  | .row left, .row right => identicalMembers left right
  | .array left, .array right => identicalMembers left right
  | .mapping left, .mapping right => identicalEntries left right
  | _, _ => false

/-- The lists have members that are built in the same way. -/
def identicalMembers : List Value → List Value → Bool
  | [], [] => true
  | left :: lefts, right :: rights => identical left right && identicalMembers lefts rights
  | _, _ => false

/-- The names are the same and their values are built in the same way. -/
def identicalEntries : List (String × Value) → List (String × Value) → Bool
  | [], [] => true
  | (left, value) :: lefts, (right, other) :: rights =>
    left == right && identical value other && identicalEntries lefts rights
  | _, _ => false

end

mutual

/-- A value is identical to itself. -/
theorem identical_refl : (value : Value) → identical value value = true
  | .null => rfl
  | .boolean _ | .integer _ | .real _ | .decimal _ | .text _ | .bytes _ | .buffer _ => by
    simp [identical]
  | .row members | .array members => by simp [identical, identicalMembers_refl members]
  | .mapping entries => by simp [identical, identicalEntries_refl entries]

/-- The members of a list are identical to themselves. -/
theorem identicalMembers_refl : (members : List Value) → identicalMembers members members = true
  | [] => rfl
  | head :: tail => by
    simp [identicalMembers, identical_refl head, identicalMembers_refl tail]

/-- Named values are identical to themselves. -/
theorem identicalEntries_refl :
    (entries : List (String × Value)) → identicalEntries entries entries = true
  | [] => rfl
  | (name, value) :: tail => by
    simp [identicalEntries, identical_refl value, identicalEntries_refl tail]

end

mutual

/-- Identical values are equal. -/
theorem eq_of_identical : (left right : Value) → identical left right = true → left = right
  | .null, right, same => by cases right <;> simp_all [identical]
  | .boolean _, right, same => by cases right <;> simp_all [identical]
  | .integer _, right, same => by cases right <;> simp_all [identical]
  | .real _, right, same => by cases right <;> simp_all [identical]
  | .decimal _, right, same => by cases right <;> simp_all [identical]
  | .text _, right, same => by cases right <;> simp_all [identical]
  | .bytes _, right, same => by cases right <;> simp_all [identical]
  | .buffer _, right, same => by cases right <;> simp_all [identical]
  | .row members, right, same => by
    cases right with
    | row others =>
      simp only [identical] at same
      rw [eq_of_identicalMembers members others same]
    | _ => simp [identical] at same
  | .array members, right, same => by
    cases right with
    | array others =>
      simp only [identical] at same
      rw [eq_of_identicalMembers members others same]
    | _ => simp [identical] at same
  | .mapping entries, right, same => by
    cases right with
    | mapping others =>
      simp only [identical] at same
      rw [eq_of_identicalEntries entries others same]
    | _ => simp [identical] at same

/-- Lists with identical members are equal. -/
theorem eq_of_identicalMembers :
    (lefts rights : List Value) → identicalMembers lefts rights = true → lefts = rights
  | [], rights, same => by cases rights <;> simp_all [identicalMembers]
  | left :: lefts, rights, same => by
    cases rights with
    | nil => simp [identicalMembers] at same
    | cons right rights =>
      simp only [identicalMembers, Bool.and_eq_true] at same
      rw [eq_of_identical left right same.1, eq_of_identicalMembers lefts rights same.2]

/-- Identical named values are equal. -/
theorem eq_of_identicalEntries : (lefts rights : List (String × Value)) →
    identicalEntries lefts rights = true → lefts = rights
  | [], rights, same => by cases rights <;> simp_all [identicalEntries]
  | (left, value) :: lefts, rights, same => by
    cases rights with
    | nil => simp [identicalEntries] at same
    | cons entry rights =>
      obtain ⟨right, other⟩ := entry
      simp only [identicalEntries, Bool.and_eq_true, beq_iff_eq] at same
      rw [same.1.1, eq_of_identical value other same.1.2,
        eq_of_identicalEntries lefts rights same.2]

end

instance : DecidableEq Value := fun left right =>
  decidable_of_iff (identical left right = true)
    ⟨eq_of_identical left right, fun same => same ▸ identical_refl left⟩

end SerialCheck.Value

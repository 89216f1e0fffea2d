import SerialCheck.Proofs.Numbered
import SerialCheck.Proofs.RowTexts

/-!
# Rows that only one side has

A comparison shows for each side the rows that it has beyond those of the other one, up to a limit. The
pairing of the sorted canonical texts uses each text once, so what it leaves is the difference of
multisets in ascending order (`unmatched_normalized`), and the limit only cuts what is shown of it.
Nothing is shown exactly if the comparison reports no difference (`mismatches_eq_surplus`).
-/
namespace SerialCheck.Rows

/-- The canonical texts of rows, each as often as it occurs. -/
def forms (rows : Rows) : Multiset String := (rows.map canonical : List String)

/-- The canonical texts that rows have beyond those of other rows, in ascending order. -/
def surplus (rows others : Rows) : List String := (forms rows - forms others).sort

/-- Sorting leaves the canonical texts of rows as they are. -/
theorem coe_normalized (rows : Rows) : (normalized rows : Multiset String) = forms rows :=
  Multiset.coe_eq_coe.2 (sort_perm textBelow _)

/-- Ascending texts are the sorted list of the multiset that they make up. -/
theorem eq_sort_of_ascending {texts : List String} {all : Multiset String}
    (ascending : texts.Pairwise (· ≤ ·)) (same : (texts : Multiset String) = all) :
    texts = all.sort := by
  refine List.Perm.eq_of_pairwise (fun _ _ _ _ => le_antisymm) ascending
    (Multiset.pairwise_sort all (· ≤ ·)) ?_
  rw [← Multiset.coe_eq_coe, Multiset.sort_eq, same]

/-- Each text is paired once, so each side is left with its difference to the other one. -/
theorem unmatched_eq_diff (lefts rights : List String) :
    unmatched lefts rights = (lefts.diff rights, rights.diff lefts) := by
  induction lefts generalizing rights with
  | nil => rw [unmatched, List.nil_diff, List.diff_nil]
  | cons left lefts hypothesis =>
    rw [unmatched, List.diff_cons]
    split
    next found =>
      have inside : left ∈ rights := by simpa using found
      rw [hypothesis, List.cons_diff_of_mem inside]
    next missing =>
      have outside : left ∉ rights := by simpa using missing
      rw [hypothesis, List.cons_diff_of_not_mem outside, List.erase_of_not_mem outside]

/-- Taking the sorted texts of the one side from those of the other one leaves the surplus. -/
theorem diff_normalized (left right : Rows) :
    (normalized left).diff (normalized right) = surplus left right := by
  refine eq_sort_of_ascending ((sortTexts_ascending _).sublist (List.diff_sublist _ _)) ?_
  rw [← Multiset.coe_sub, coe_normalized, coe_normalized]

/-- Pairing the sorted texts leaves each side its surplus. -/
theorem unmatched_normalized (left right : Rows) :
    unmatched (normalized left) (normalized right) = (surplus left right, surplus right left) := by
  rw [unmatched_eq_diff, diff_normalized, diff_normalized]

/-- A text is in the surplus of rows if it occurs among them more often than among the others. -/
theorem mem_surplus_iff {text : String} {rows others : Rows} :
    text ∈ surplus rows others ↔ (forms others).count text < (forms rows).count text := by
  rw [surplus, Multiset.mem_sort, ← Multiset.count_pos, Multiset.count_sub, Nat.sub_pos_iff_lt]

/-- Rows have no surplus over each other exactly if there is no difference between them. -/
theorem surplus_eq_nil_iff {left right : Rows} :
    surplus left right = [] ∧ surplus right left = [] ↔
      difference? (some left) (some right) = none := by
  rw [difference?_eq_none_iff, ← Multiset.coe_eq_coe]
  show _ ↔ forms left = forms right
  simp only [List.eq_nil_iff_forall_not_mem, mem_surplus_iff, not_lt, Multiset.ext]
  exact ⟨fun both text => le_antisymm (both.1 text) (both.2 text),
    fun same => ⟨fun text => (same text).le, fun text => (same text).ge⟩⟩

/-- What a list with room for at least one text shows is empty only if the list is. -/
theorem shown_eq_nil_iff {limit : Nat} (room : 1 ≤ limit) (texts : List String) :
    (texts.take limit).map display = [] ↔ texts = [] := by
  rw [List.map_eq_nil_iff, List.take_eq_nil_iff]
  constructor
  · rintro (none | empty)
    · omega
    · exact empty
  · exact .inr

/-- A whole number can be used as a limit. -/
theorem mismatchesWithin_integer (limit : Int) (left right : Rows) :
    mismatchesWithin (.integer limit) left right = .ok (mismatches limit left right) := by
  simp only [mismatchesWithin, Value.isBelow_integer, Value.count]
  split <;> rfl

/-- For every limit that is not negative each side shows the first texts of its surplus. No row is in
the surplus of both sides, and if anything can be shown, nothing is exactly if the comparison reports
no difference. -/
theorem mismatches_eq_surplus (limit : Nat) (left right : Rows) :
    mismatchesWithin (.integer limit) left right = .ok (mismatches limit left right) ∧
      mismatches limit left right =
        (((surplus left right).take limit).map display,
          ((surplus right left).take limit).map display) ∧
      (∀ row, ¬(canonical row ∈ surplus left right ∧ canonical row ∈ surplus right left)) ∧
      (1 ≤ limit →
        (mismatches limit left right = ([], []) ↔ report (some left) (some right) = "")) := by
  have shown : mismatches limit left right =
      (((surplus left right).take limit).map display,
        ((surplus right left).take limit).map display) := by
    rw [mismatches, unmatched_normalized]
    simp [takeUpTo]
  refine ⟨mismatchesWithin_integer limit left right, shown, ?_, fun room => ?_⟩
  · rintro row ⟨first, second⟩
    rw [mem_surplus_iff] at first second
    omega
  · rw [shown, report_eq_empty, ← surplus_eq_nil_iff, Prod.mk.injEq, shown_eq_nil_iff room,
      shown_eq_nil_iff room]

/-- Of rows that occur twice on one side and once on the other one, one is left over. With room for one
text on each side the further ones are not shown, and there is a difference to report. -/
theorem mismatches_of_repeated :
    mismatches 1
        [.row [.text "a"], .row [.null], .row [.text "a"]]
        [.row [.text "b"], .row [.text "a"], .row [.text "b"]] = (["([NULL])"], ["(b)"]) ∧
      report
        (some [.row [.text "a"], .row [.null], .row [.text "a"]])
        (some [.row [.text "b"], .row [.text "a"], .row [.text "b"]]) ≠ "" := by
  have shown : mismatches 1
      [.row [.text "a"], .row [.null], .row [.text "a"]]
      [.row [.text "b"], .row [.text "a"], .row [.text "b"]] = (["([NULL])"], ["(b)"]) := by
    decide +kernel
  refine ⟨shown, fun same => ?_⟩
  have nothing := ((mismatches_eq_surplus 1 _ _).2.2.2 (by decide)).2 same
  rw [Nat.cast_one, shown] at nothing
  cases nothing

end SerialCheck.Rows

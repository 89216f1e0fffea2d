import Mathlib.Data.List.Sort
import SerialCheck.ExpectedErrors

/-!
# Sets of error patterns

A set of patterns is determined by what it contains (`ExpectedErrors.ext_patterns`), because its patterns
are kept in strictly ascending order. So the union is that of sets, in whatever order and however often
patterns are added, and it matches an error exactly if one of the two sets does
(`ExpectedErrors.union_laws`).
-/
namespace SerialCheck

/-- The code points of a text. -/
def Text.codePoints (text : String) : List Nat := text.toList.map Char.toNat

/-- Texts are ordered by their code points. -/
theorem Text.codePoints_lt {left right : String} :
    codePoints left < codePoints right ↔ left < right := by
  have chars (left right : List Char) :
      left.map Char.toNat < right.map Char.toNat ↔ left < right := by
    induction left generalizing right with
    | nil => cases right <;> simp
    | cons head tail hypothesis =>
      cases right with
      | nil => simp
      | cons other rest =>
        have below : head.toNat < other.toNat ↔ head < other := Iff.rfl
        have same : head.toNat = other.toNat ↔ head = other := Char.toNat_inj
        rw [List.map_cons, List.map_cons, List.cons_lt_cons_iff, List.cons_lt_cons_iff, below, same,
          hypothesis]
  exact chars _ _

namespace ExpectedErrors

/-- An error is matched by a pattern that occurs in it, letter case aside. -/
theorem matches?_iff {errors : ExpectedErrors} {report : String} (something : report ≠ "") :
    errors.matches? report = true ↔
      ∃ pattern ∈ errors.patterns, Text.contains (Text.lower report) (Text.lower pattern) = true := by
  have filled : report.isEmpty = false := by
    rw [← Bool.not_eq_true, String.isEmpty_iff]
    exact something
  rw [matches?, filled, Bool.not_false, Bool.true_and, List.any_eq_true]

theorem mem_ofList {patterns : List String} {pattern : String} :
    pattern ∈ (ofList patterns).patterns ↔ pattern ∈ patterns := mem_distinct

/-- Patterns that are added are found beside the others. -/
theorem mem_withPatterns {errors : ExpectedErrors} {patterns : List String} {pattern : String} :
    pattern ∈ (errors.withPatterns patterns).patterns ↔ pattern ∈ errors.patterns ∨ pattern ∈ patterns := by
  rw [withPatterns, ofList, mem_distinct, List.mem_append]

/-- The union holds the patterns of either set. -/
theorem mem_union {left right : ExpectedErrors} {pattern : String} :
    pattern ∈ (left.union right).patterns ↔ pattern ∈ left.patterns ∨ pattern ∈ right.patterns :=
  mem_withPatterns

theorem not_mem_none {pattern : String} : pattern ∉ none.patterns := by
  rw [none, mem_ofList]
  exact List.not_mem_nil

theorem contains_iff {errors : ExpectedErrors} {pattern : String} :
    errors.contains pattern = true ↔ pattern ∈ errors.patterns := List.contains_iff_mem

/-- Sets that hold the same patterns are the same: there is one ascending list of them. -/
theorem ext_patterns {left right : ExpectedErrors}
    (same : ∀ pattern, pattern ∈ left.patterns ↔ pattern ∈ right.patterns) : left = right := by
  obtain ⟨patterns, ascending⟩ := left
  obtain ⟨others, rising⟩ := right
  obtain rfl : patterns = others := ascending.eq_of_mem_iff rising same
  rfl

/-- Sets are the same exactly if they contain the same patterns. -/
theorem eq_iff_contains {left right : ExpectedErrors} :
    left = right ↔ ∀ pattern, left.contains pattern = right.contains pattern := by
  constructor
  · rintro rfl pattern
    rfl
  · intro same
    refine ext_patterns fun pattern => ?_
    rw [← contains_iff, same pattern, contains_iff]

/-- A hash of a set is made of its list of patterns. Sets are the same exactly if no hash tells them
apart. -/
theorem eq_iff_hash {left right : ExpectedErrors} :
    left = right ↔ ∀ hash : List String → Int, hash left.patterns = hash right.patterns := by
  constructor
  · rintro rfl hash
    rfl
  · intro alike
    have same : right.patterns = left.patterns := by
      by_contra different
      have apart := alike fun patterns => if patterns = left.patterns then 0 else 1
      rw [if_pos rfl, if_neg different] at apart
      cases apart
    exact ext_patterns fun pattern => by rw [same]

section Union

variable (one two three : ExpectedErrors)

theorem union_assoc : (one.union two).union three = one.union (two.union three) :=
  ext_patterns fun pattern => by simp only [mem_union, or_assoc]

theorem union_comm : one.union two = two.union one :=
  ext_patterns fun pattern => by simp only [mem_union, or_comm]

theorem union_self : one.union one = one :=
  ext_patterns fun pattern => by simp only [mem_union, or_self]

theorem union_none : one.union none = one :=
  ext_patterns fun pattern => by simp only [mem_union, not_mem_none, or_false]

/-- Patterns are added by a union with the set of them. -/
theorem withPatterns_eq_union (patterns : List String) :
    one.withPatterns patterns = one.union (ofList patterns) :=
  ext_patterns fun pattern => by simp only [mem_withPatterns, mem_union, mem_ofList]

/-- An error is expected by a union exactly if it is by one of the sets. -/
theorem isExpected_union (error : Option String) :
    (one.union two).isExpected error = (one.isExpected error || two.isExpected error) := by
  cases error with
  | none => rfl
  | some report =>
    by_cases nothing : report = ""
    · subst nothing
      rfl
    · rw [Bool.eq_iff_iff, Bool.or_eq_true]
      simp only [isExpected, matches?_iff nothing, mem_union, or_and_right, exists_or]

end Union

/-- Sets of patterns are a join-semilattice with the empty set at the bottom, and matching respects it. The
union is associative, commutative and idempotent; adding patterns is the union with the set of them; the
patterns of every set ascend strictly by their code points; two sets are the same exactly if they contain
the same patterns, and exactly if they have the same hash however lists of texts are hashed; and a union
expects an error, or none, exactly if one of the sets does. -/
theorem union_laws :
    (∀ one two three : ExpectedErrors,
      (one.union two).union three = one.union (two.union three) ∧ one.union two = two.union one ∧
        one.union one = one ∧ one.union none = one ∧ none.union one = one) ∧
    (∀ (errors : ExpectedErrors) (patterns : List String),
      errors.withPatterns patterns = errors.union (ofList patterns) ∧
        ∀ pattern, (ofList patterns).contains pattern = true ↔ pattern ∈ patterns) ∧
    (∀ errors : ExpectedErrors,
      errors.patterns.Pairwise fun earlier later => Text.codePoints earlier < Text.codePoints later) ∧
    (∀ left right : ExpectedErrors,
      (left = right ↔ ∀ pattern, left.contains pattern = right.contains pattern) ∧
        (left = right ↔ ∀ hash : List String → Int, hash left.patterns = hash right.patterns)) ∧
    ∀ (left right : ExpectedErrors) (error : Option String),
      (left.union right).isExpected error = true ↔
        left.isExpected error = true ∨ right.isExpected error = true := by
  refine ⟨fun one two three => ?_, fun errors patterns => ?_, fun errors => ?_, fun left right => ?_,
    fun left right error => ?_⟩
  · exact ⟨union_assoc one two three, union_comm one two, union_self one, union_none one,
      (union_comm none one).trans (union_none one)⟩
  · exact ⟨withPatterns_eq_union errors patterns, fun pattern => contains_iff.trans mem_ofList⟩
  · exact errors.ascending.imp Text.codePoints_lt.2
  · exact ⟨eq_iff_contains, eq_iff_hash⟩
  · rw [isExpected_union, Bool.or_eq_true]

/-- Order and repetition of what is added do not show. -/
example : ((ofList ["b"]).union (ofList ["a", "b"])).patterns = ["a", "b"] ∧
    ((ofList ["b", "a", "b"]).withPatterns ["a"]).patterns = ["a", "b"] := by decide +kernel

end ExpectedErrors

end SerialCheck

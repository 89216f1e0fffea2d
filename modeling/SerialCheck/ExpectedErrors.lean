import SerialCheck.Sorted
import SerialCheck.Text.Casing
import SerialCheck.Text.Quoted
import SerialCheck.Text.Search

/-!
# Expected errors

The errors that a statement may meet without being suspicious: a set of patterns, kept as a
strictly ascending list so that equal sets are equal values. A pattern matches an error that
contains it in any letter case.
-/
namespace SerialCheck

/-- A set of error patterns. -/
structure ExpectedErrors where
  /-- The patterns, in strictly ascending order. -/
  patterns : List String
  /-- No pattern is repeated or out of order. -/
  ascending : patterns.Pairwise (· < ·)
  deriving DecidableEq

namespace ExpectedErrors

/-- An inserted text is one of the texts or the new one. -/
theorem mem_insertDistinct {text member : String} {texts : List String} :
    member ∈ insertDistinct text texts ↔ member = text ∨ member ∈ texts := by
  induction texts with
  | nil => simp [insertDistinct]
  | cons head tail hypothesis =>
    simp only [insertDistinct]
    split
    · simp
    · split
      next same => subst same; simp
      next => simp only [List.mem_cons, hypothesis]; grind

/-- Inserting keeps a list strictly ascending. -/
theorem pairwise_insertDistinct {text : String} {texts : List String}
    (ascending : texts.Pairwise (· < ·)) : (insertDistinct text texts).Pairwise (· < ·) := by
  induction texts with
  | nil => simp [insertDistinct]
  | cons head tail hypothesis =>
    obtain ⟨below, rest⟩ := List.pairwise_cons.1 ascending
    simp only [insertDistinct]
    split
    next lower =>
      refine List.pairwise_cons.2 ⟨fun member found => ?_, ascending⟩
      rcases List.mem_cons.1 found with rfl | deeper
      · exact lower
      · exact String.lt_trans lower (below member deeper)
    next notLower =>
      split
      · exact ascending
      next different =>
        refine List.pairwise_cons.2 ⟨fun member found => ?_, hypothesis rest⟩
        rcases mem_insertDistinct.1 found with rfl | deeper
        · exact Std.lt_of_le_of_ne (String.not_lt.1 notLower) different
        · exact below member deeper

/-- The different texts of a list are strictly ascending. -/
theorem pairwise_distinct (texts : List String) : (distinct texts).Pairwise (· < ·) := by
  induction texts with
  | nil => exact .nil
  | cons head tail hypothesis => exact pairwise_insertDistinct hypothesis

/-- A list and its different texts have the same members. -/
theorem mem_distinct {member : String} {texts : List String} :
    member ∈ distinct texts ↔ member ∈ texts := by
  induction texts with
  | nil => simp [distinct]
  | cons head tail hypothesis =>
    have step : distinct (head :: tail) = insertDistinct head (distinct tail) := rfl
    rw [step, mem_insertDistinct, hypothesis, List.mem_cons]

/-- The set of the given patterns. -/
def ofList (patterns : List String) : ExpectedErrors :=
  ⟨distinct patterns, pairwise_distinct patterns⟩

/-- No expected error. -/
def none : ExpectedErrors := ofList []

/-- The set with further patterns. -/
def withPatterns (errors : ExpectedErrors) (patterns : List String) : ExpectedErrors :=
  ofList (errors.patterns ++ patterns)

/-- The patterns of either set. -/
def union (left right : ExpectedErrors) : ExpectedErrors := left.withPatterns right.patterns

/-- Some pattern occurs in the error, letter case aside. An empty error matches nothing. -/
def matches? (errors : ExpectedErrors) (error : String) : Bool :=
  let lowered := Text.lower error
  !error.isEmpty && errors.patterns.any fun pattern => Text.contains lowered (Text.lower pattern)

/-- The error, if there is one, is expected. -/
def isExpected (errors : ExpectedErrors) : Option String → Bool
  | some error => errors.matches? error
  | Option.none => false

/-- The set holds the pattern itself. -/
def contains (errors : ExpectedErrors) (pattern : String) : Bool := errors.patterns.contains pattern

/-- The number of patterns. -/
def size (errors : ExpectedErrors) : Nat := errors.patterns.length

/-- The text by which a set is shown. -/
def text (errors : ExpectedErrors) : String :=
  "ExpectedErrors(" ++ Text.quotedList errors.patterns ++ ")"

end ExpectedErrors

end SerialCheck

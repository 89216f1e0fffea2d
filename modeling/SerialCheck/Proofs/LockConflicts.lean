import Mathlib.Data.List.Basic
import SerialCheck.ErrorClass

/-!
# Which reports are lock conflicts

A report is classified by the first class one of whose patterns occurs in its lower case. The classes of
lock conflicts stand in front of all others, so a report is a lock conflict exactly if one of their
patterns occurs in it, whatever else it says (`firstMatch_isLockConflict`).

A report that is quoted inside a longer one is a lock conflict there as well. The lower case of a text
depends on what stands around it only in the form of its sigmas: `medial` evens these out, and no pattern
holds one (`Pattern.Occurs.embedded`).
-/
namespace SerialCheck

namespace Text

/-- One pattern is followed by another on its line exactly if the text can be cut around the two with no
line break between them. -/
theorem hasInLine_iff {first second text : List Char} (nonempty : first ≠ [])
    (unbroken : '\n' ∉ second) :
    hasInLine first second text = true ↔
      ∃ front gap back, text = front ++ first ++ gap ++ second ++ back ∧ '\n' ∉ gap := by
  induction text with
  | nil =>
    constructor
    · intro found
      cases found
    · rintro ⟨front, gap, back, cut, -⟩
      simp [nonempty] at cut
  | cons head tail hypothesis =>
    rw [hasInLine, Bool.or_eq_true, hypothesis, Bool.and_eq_true, List.isPrefixOf_iff_prefix,
      hasSegment_iff]
    constructor
    · rintro (⟨⟨rest, starts⟩, gap, ending, line⟩ | ⟨front, gap, back, cut, same⟩)
      · have dropped : (head :: tail).drop first.length = rest := by
          rw [← starts, List.drop_left]
        rw [dropped] at line
        have whole : rest = gap ++ second ++ (ending ++ rest.dropWhile (· != '\n')) := by
          calc
            rest = rest.takeWhile (· != '\n') ++ rest.dropWhile (· != '\n') :=
              (List.takeWhile_append_dropWhile).symm
            _ = gap ++ second ++ (ending ++ rest.dropWhile (· != '\n')) := by
              rw [line, List.append_assoc]
        have same : '\n' ∉ gap := by
          intro broken
          have inside : '\n' ∈ rest.takeWhile (· != '\n') := by simp [line, broken]
          have differs := List.all_takeWhile (p := (· != '\n')) (l := rest)
          rw [List.all_eq_true] at differs
          exact absurd (differs _ inside) (by decide)
        refine ⟨[], gap, ending ++ rest.dropWhile (· != '\n'), ?_, same⟩
        rw [← starts, List.nil_append]
        conv_lhs => rw [whole]
        simp
      · exact ⟨head :: front, gap, back, by simp [cut], same⟩
    · rintro ⟨front, gap, back, cut, same⟩
      cases front with
      | nil =>
        left
        have starts : head :: tail = first ++ (gap ++ second ++ back) := by simpa using cut
        have clear : ∀ char ∈ gap ++ second, (char != '\n') = true := by
          intro char inside
          rw [bne_iff_ne]
          rintro rfl
          exact (List.mem_append.1 inside).elim same unbroken
        constructor
        · exact ⟨gap ++ second ++ back, starts.symm⟩
        · refine ⟨gap, back.takeWhile (· != '\n'), ?_⟩
          rw [starts, List.drop_left, List.takeWhile_append_of_pos clear]
      | cons other front =>
        right
        have rest : tail = front ++ first ++ gap ++ second ++ back := by
          simp only [List.cons_append, List.cons.injEq] at cut
          exact cut.2
        exact ⟨front, gap, back, rest, same⟩

/-- The character, a final sigma being read as the other one. -/
def medial (char : Char) : Char := if char = 'ς' then 'σ' else char

/-- Only the two sigmas are read as a sigma. -/
theorem eq_of_medial {char other : Char} (same : medial char = other) (plain : other ≠ 'σ') :
    char = other := by
  unfold medial at same
  split at same
  · exact absurd same.symm plain
  · exact same

/-- Characters without a sigma come from themselves alone. -/
theorem eq_of_map_medial {chars others : List Char} (same : chars.map medial = others)
    (plain : 'σ' ∉ others) : chars = others := by
  induction chars generalizing others with
  | nil => simpa using same
  | cons char chars hypothesis =>
    cases others with
    | nil => cases same
    | cons other others =>
      rw [List.map_cons, List.cons.injEq] at same
      rw [List.mem_cons, not_or] at plain
      rw [eq_of_medial same.1 (Ne.symm plain.1), hypothesis same.2 plain.2]

/-- Characters without a sigma stay as they are. -/
theorem map_medial_of_plain {chars : List Char} (plain : 'ς' ∉ chars) : chars.map medial = chars := by
  have same : ∀ char ∈ chars, medial char = char := by
    intro char inside
    unfold medial
    split
    next final => exact absurd (final ▸ inside) plain
    next => rfl
  exact List.map_congr_left same |>.trans (List.map_id _)

/-- Line breaks stay where they are. -/
theorem newline_notMem_map_medial {chars : List Char} :
    '\n' ∉ chars.map medial ↔ '\n' ∉ chars := by
  have same : ∀ char, medial char = '\n' ↔ char = '\n' := by
    intro char
    constructor
    · intro equal
      exact eq_of_medial equal (by decide)
    · rintro rfl
      rfl
  simp [same]

/-- Apart from the form of a sigma, the lower case of a character does not depend on its place. -/
theorem map_medial_lowerChar (final : Bool) (char : Char) :
    (lowerChar final char).map medial = (lowerChar false char).map medial := by
  unfold lowerChar
  split
  · rfl
  · split
    · cases final <;> rfl
    · rfl

/-- Apart from the forms of its sigmas, a text is put into lower case character by character. -/
theorem map_medial_lowerFrom (before text : List Char) :
    (lowerFrom before text).map medial =
      text.flatMap fun char => (lowerChar false char).map medial := by
  induction text generalizing before with
  | nil => rfl
  | cons char text hypothesis =>
    rw [lowerFrom, List.map_append, hypothesis, map_medial_lowerChar, List.flatMap_cons]

/-- Apart from the forms of its sigmas, the lower case of a text is put together from that of its parts. -/
theorem map_medial_lower_append (first second : String) :
    (lower (first ++ second)).toList.map medial =
      (lower first).toList.map medial ++ (lower second).toList.map medial := by
  simp [lower, map_medial_lowerFrom]

end Text

namespace ErrorClass

namespace Pattern

/-- The characters can be cut around the pattern. -/
def Occurs (text : List Char) : Pattern → Prop
  | .phrase words => ∃ front back, text = front ++ words.toList ++ back
  | .inLine first second => ∃ front gap back,
      text = front ++ first.toList ++ gap ++ second.toList ++ back ∧ '\n' ∉ gap

/-- The words that the pattern looks for. -/
def words : Pattern → List String
  | .phrase words => [words]
  | .inLine first second => [first, second]

/-- The pattern looks for words, and none of them breaks the line or holds a small sigma. -/
def IsPlain (pattern : Pattern) : Prop :=
  ∀ word ∈ pattern.words,
    word.toList ≠ [] ∧ '\n' ∉ word.toList ∧ 'ς' ∉ word.toList ∧ 'σ' ∉ word.toList

instance : DecidablePred IsPlain := fun pattern =>
  inferInstanceAs (Decidable (∀ word ∈ pattern.words, _))

/-- A phrase occurs if the text can be cut around it. -/
theorem occurs_phrase (text words : String) :
    (phrase words).Occurs text.toList ↔ ∃ front back, text = front ++ words ++ back := by
  constructor
  · rintro ⟨front, back, cut⟩
    exact ⟨String.ofList front, String.ofList back, String.toList_inj.1 (by simp [cut])⟩
  · rintro ⟨front, back, cut⟩
    exact ⟨front.toList, back.toList, by simp [cut]⟩

/-- Two phrases occur on one line if the text can be cut around them with no line break between them. -/
theorem occurs_inLine (text first second : String) :
    (inLine first second).Occurs text.toList ↔
      ∃ front gap back, text = front ++ first ++ gap ++ second ++ back ∧ '\n' ∉ gap.toList := by
  constructor
  · rintro ⟨front, gap, back, cut, same⟩
    exact ⟨String.ofList front, String.ofList gap, String.ofList back,
      String.toList_inj.1 (by simp [cut]), by simpa using same⟩
  · rintro ⟨front, gap, back, cut, same⟩
    exact ⟨front.toList, gap.toList, back.toList, by simp [cut], same⟩

variable {pattern : Pattern} {text : List Char}

/-- A plain pattern is found exactly if the text can be cut around it. -/
theorem occursIn_iff (plain : pattern.IsPlain) (text : String) :
    pattern.occursIn text = true ↔ pattern.Occurs text.toList := by
  cases pattern with
  | phrase words => exact Text.contains_iff
  | inLine first second =>
    have nonempty : first.toList ≠ [] := (plain first (by simp [words])).1
    have unbroken : '\n' ∉ second.toList := (plain second (by simp [words])).2.1
    exact Text.hasInLine_iff nonempty unbroken

/-- A pattern that occurs in a text occurs in every longer one. -/
theorem Occurs.append (occurs : pattern.Occurs text) (before after : List Char) :
    pattern.Occurs (before ++ text ++ after) := by
  cases pattern with
  | phrase words =>
    obtain ⟨front, back, cut⟩ := occurs
    exact ⟨before ++ front, back ++ after, by simp [cut]⟩
  | inLine first second =>
    obtain ⟨front, gap, back, cut, same⟩ := occurs
    exact ⟨before ++ front, gap, back ++ after, by simp [cut], same⟩

/-- Whether a plain pattern occurs does not depend on the forms of the sigmas in the text. -/
theorem occurs_map_medial (plain : pattern.IsPlain) :
    pattern.Occurs (text.map Text.medial) ↔ pattern.Occurs text := by
  have fixed : ∀ word ∈ pattern.words, word.toList.map Text.medial = word.toList := fun word inside =>
    Text.map_medial_of_plain (plain word inside).2.2.1
  have origin : ∀ word ∈ pattern.words, ∀ chars : List Char,
      chars.map Text.medial = word.toList → chars = word.toList := fun word inside _ same =>
    Text.eq_of_map_medial same (plain word inside).2.2.2
  cases pattern with
  | phrase word =>
    constructor
    · rintro ⟨front, back, cut⟩
      obtain ⟨started, back', rfl, started_eq, -⟩ := List.map_eq_append_iff.1 cut
      obtain ⟨front', found, rfl, -, found_eq⟩ := List.map_eq_append_iff.1 started_eq
      exact ⟨front', back', by rw [origin word (by simp [words]) found found_eq]⟩
    · rintro ⟨front, back, rfl⟩
      exact ⟨front.map Text.medial, back.map Text.medial, by
        rw [List.map_append, List.map_append, fixed word (by simp [words])]⟩
  | inLine first second =>
    constructor
    · rintro ⟨front, gap, back, cut, same⟩
      obtain ⟨upToSecond, back', rfl, second_ends, -⟩ := List.map_eq_append_iff.1 cut
      obtain ⟨upToGap, second', rfl, gap_ends, second_eq⟩ := List.map_eq_append_iff.1 second_ends
      obtain ⟨upToFirst, gap', rfl, first_ends, rfl⟩ := List.map_eq_append_iff.1 gap_ends
      obtain ⟨front', first', rfl, -, first_eq⟩ := List.map_eq_append_iff.1 first_ends
      refine ⟨front', gap', back', ?_, Text.newline_notMem_map_medial.1 same⟩
      rw [origin first (by simp [words]) first' first_eq,
        origin second (by simp [words]) second' second_eq]
    · rintro ⟨front, gap, back, rfl, same⟩
      refine ⟨front.map Text.medial, gap.map Text.medial, back.map Text.medial, ?_,
        Text.newline_notMem_map_medial.2 same⟩
      simp only [List.map_append, fixed first (by simp [words]), fixed second (by simp [words])]

/-- A plain pattern that occurs in the lower case of a text occurs in that of every text that quotes it. -/
theorem Occurs.embedded (plain : pattern.IsPlain) {report : String}
    (occurs : pattern.Occurs (Text.lower report).toList) (before after : String) :
    pattern.Occurs (Text.lower (before ++ report ++ after)).toList := by
  have evened := ((occurs_map_medial plain).2 occurs).append
    ((Text.lower before).toList.map Text.medial) ((Text.lower after).toList.map Text.medial)
  rw [← Text.map_medial_lower_append, ← Text.map_medial_lower_append] at evened
  exact (occurs_map_medial plain).1 evened

end Pattern

/-- Without the classes of lock conflicts no report is one. -/
theorem firstMatch_of_others (text : String) {others : List (ErrorClass × List Pattern)}
    (apart : ∀ entry ∈ others, entry.1.isLockConflict = false) :
    (firstMatch text others).isLockConflict = false := by
  induction others with
  | nil => rfl
  | cons entry others hypothesis =>
    rw [firstMatch]
    split
    · exact apart entry List.mem_cons_self
    · exact hypothesis fun other inside => apart other (List.mem_cons_of_mem _ inside)

/-- If the classes of lock conflicts stand in front of all others, the first class that matches is one of
them exactly if any of them matches. -/
theorem firstMatch_isLockConflict (text : String) {conflicts others : List (ErrorClass × List Pattern)}
    (inFront : ∀ entry ∈ conflicts, entry.1.isLockConflict = true)
    (behind : ∀ entry ∈ others, entry.1.isLockConflict = false) :
    (firstMatch text (conflicts ++ others)).isLockConflict = true ↔
      ∃ entry ∈ conflicts, ∃ pattern ∈ entry.2, pattern.occursIn text = true := by
  induction conflicts with
  | nil => simp [firstMatch_of_others text behind]
  | cons entry conflicts hypothesis =>
    have rest := hypothesis fun other inside => inFront other (List.mem_cons_of_mem _ inside)
    rw [List.cons_append, firstMatch, List.exists_mem_cons_iff, ← rest, ← List.any_eq_true]
    split
    next found => simp [found, inFront entry List.mem_cons_self]
    next silent => simp [silent]

/-- The patterns of the lock conflicts. -/
def conflictPatterns : List Pattern :=
  [.phrase "deadlock detected", .phrase "deadlock found", .inLine "lock" "timeout",
    .phrase "could not obtain lock", .phrase "could not serialize access"]

/-- None of them breaks the line or holds a sigma. -/
theorem isPlain_conflictPatterns : ∀ pattern ∈ conflictPatterns, pattern.IsPlain := by
  decide +kernel

/-- The three classes of lock conflicts, which hold these patterns, are tried first. -/
theorem conflicts_first :
    (patterns.take 3).flatMap Prod.snd = conflictPatterns ∧
      (∀ entry ∈ patterns.take 3, entry.1.isLockConflict = true) ∧
        ∀ entry ∈ patterns.drop 3, entry.1.isLockConflict = false :=
  ⟨rfl, by decide +kernel, by decide +kernel⟩

/-- A report is a lock conflict exactly if one of the patterns of the lock conflicts occurs in its lower
case. -/
theorem isLockConflict_iff_occurs (report : String) :
    SerialCheck.isLockConflict report = true ↔
      ∃ pattern ∈ conflictPatterns, pattern.Occurs (Text.lower report).toList := by
  obtain ⟨listed, inFront, behind⟩ := conflicts_first
  have first := firstMatch_isLockConflict (Text.lower report) inFront behind
  rw [List.take_append_drop] at first
  rw [SerialCheck.isLockConflict, ofReport, first, ← listed]
  constructor
  · rintro ⟨entry, inside, pattern, mine, found⟩
    have member := List.mem_flatMap.2 ⟨entry, inside, mine⟩
    have plain := isPlain_conflictPatterns pattern (listed ▸ member)
    exact ⟨pattern, member, (Pattern.occursIn_iff plain _).1 found⟩
  · rintro ⟨pattern, member, occurs⟩
    have plain := isPlain_conflictPatterns pattern (listed ▸ member)
    obtain ⟨entry, inside, mine⟩ := List.mem_flatMap.1 member
    exact ⟨entry, inside, pattern, mine, (Pattern.occursIn_iff plain _).2 occurs⟩

end ErrorClass

open ErrorClass Text

/-- A report is a lock conflict exactly if its lower case holds one of four phrases, or "lock" and later on
the same line "timeout", and then every text that quotes it is one too. -/
theorem isLockConflict_exact :
    (∀ report : String, isLockConflict report = true ↔
        (∃ phrase ∈ ["deadlock detected", "deadlock found", "could not obtain lock",
            "could not serialize access"], ∃ front back, lower report = front ++ phrase ++ back) ∨
          ∃ front gap back, lower report = front ++ "lock" ++ gap ++ "timeout" ++ back ∧
            '\n' ∉ gap.toList) ∧
      ∀ before report after : String, isLockConflict report = true →
        isLockConflict (before ++ report ++ after) = true := by
  constructor
  · intro report
    have moved (a b c d e : Prop) : a ∨ b ∨ c ∨ d ∨ e ↔ (a ∨ b ∨ d ∨ e) ∨ c := by tauto
    simp only [isLockConflict_iff_occurs, conflictPatterns, List.exists_mem_cons_iff, List.not_mem_nil,
      false_and, exists_false, or_false, Pattern.occurs_phrase, Pattern.occurs_inLine]
    apply moved
  · intro before report after conflict
    obtain ⟨pattern, inside, occurs⟩ := (isLockConflict_iff_occurs report).1 conflict
    have plain : pattern.IsPlain := isPlain_conflictPatterns pattern inside
    exact (isLockConflict_iff_occurs _).2 ⟨pattern, inside, occurs.embedded plain before after⟩

/-- The timeout is found in a quotation although the quotation changes its lower case and another pattern
stands in front of it. -/
theorem isLockConflict_exact_quoted :
    isLockConflict "Lock wait TIMEOUT on ΟΔΟΣ" = true ∧
      lower ("Duplicate key value; " ++ "Lock wait TIMEOUT on ΟΔΟΣ" ++ "ΑΣ") ≠
        lower "Duplicate key value; " ++ lower "Lock wait TIMEOUT on ΟΔΟΣ" ++ lower "ΑΣ" ∧
      isLockConflict ("Duplicate key value; " ++ "Lock wait TIMEOUT on ΟΔΟΣ" ++ "ΑΣ") = true := by
  have conflict : isLockConflict "Lock wait TIMEOUT on ΟΔΟΣ" = true := by decide +kernel
  exact ⟨conflict, by decide +kernel, isLockConflict_exact.2 _ _ _ conflict⟩

end SerialCheck

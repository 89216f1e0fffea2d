import Mathlib
import SerialCheck.Rows
import SerialCheck.Value.Identity

/-!
# Rows are told apart by their texts

Result sets are compared by the sorted canonical texts of their rows. Sorting makes the order of the
rows irrelevant, and on rows whose columns have types the canonical text is injective: a separator
inside a member is escaped, no text holds the character that marks the null value, and the values of
one type have different texts. So the comparison is that of the rows as multisets
(`report_eq_empty_iff_perm`).
-/
namespace SerialCheck

/-! ## Texts in order -/

/-- Sorted texts ascend. -/
theorem sortTexts_ascending (texts : List String) : (sortTexts texts).Pairwise (· ≤ ·) := by
  have sorted : (sortTexts texts).Pairwise fun earlier later => ¬textBelow later earlier := by
    refine sort_pairwise (fun left right below above => ?_) (fun one two three first second => ?_) texts
    · simp only [textBelow, decide_eq_true_eq] at below above
      exact lt_asymm below above
    · simp only [textBelow, decide_eq_true_eq, not_lt] at first second ⊢
      exact first.trans second
  refine sorted.imp fun ordered => ?_
  simpa only [textBelow, decide_eq_true_eq, not_lt] using ordered

/-- Two lists have the same sorted texts if they hold the same texts, each as often. -/
theorem sortTexts_eq_iff {left right : List String} :
    sortTexts left = sortTexts right ↔ left.Perm right := by
  constructor
  · intro same
    exact (sort_perm textBelow left).symm.trans
      ((List.Perm.of_eq same).trans (sort_perm textBelow right))
  · intro permuted
    exact List.Perm.eq_of_pairwise (fun _ _ _ _ => le_antisymm) (sortTexts_ascending left)
      (sortTexts_ascending right)
      ((sort_perm textBelow left).trans (permuted.trans (sort_perm textBelow right).symm))

namespace Rows

/-! ## The report of a comparison -/

/-- Lists of texts with equal lengths have a first difference unless they are equal. -/
theorem firstDifference?_eq_none {left right : List String} (position : Nat)
    (sizes : left.length = right.length) :
    firstDifference? position left right = none ↔ left = right := by
  induction left generalizing right position with
  | nil => simpa [firstDifference?] using (List.length_eq_zero_iff.1 sizes.symm).symm
  | cons head tail hypothesis =>
    cases right with
    | nil => cases sizes
    | cons other rest =>
      rw [firstDifference?]
      split
      next same =>
        rw [hypothesis _ (Nat.succ.inj sizes), same, List.cons.injEq, and_iff_right rfl]
      next different => simp [different]

/-- Result sets do not differ if their rows have the same canonical texts, each as often. -/
theorem difference?_eq_none_iff {left right : Rows} :
    difference? (some left) (some right) = none ↔
      (left.map canonical).Perm (right.map canonical) := by
  have length : ∀ rows : Rows, (normalized rows).length = rows.length := fun rows =>
    (sort_perm textBelow _).length_eq.trans (List.length_map _)
  rw [difference?]
  split
  next sizes =>
    refine ⟨fun none => (nomatch none), fun permuted => absurd ?_ sizes⟩
    simpa using permuted.length_eq
  next sizes =>
    rw [firstDifference?_eq_none 0 (by rw [length, length]; exact not_not.1 sizes)]
    exact sortTexts_eq_iff

/-- Every difference has a description. -/
theorem Difference.message_ne_empty (difference : Difference) : difference.message ≠ "" := by
  cases difference with
  | oneMissing =>
    show "One query result is NULL" ≠ ""
    decide
  | sizes left right =>
    show "The size of query results is different (" ++ toString left ++ " vs " ++ toString right ++
      ")" ≠ ""
    simp
  | rows position left right =>
    show "(" ++ toString position ++ ")th values is different [" ++ display left ++ ", " ++
      display right ++ "]" ≠ ""
    simp

/-- The report is empty exactly if there is no difference. -/
theorem report_eq_empty {left right : Option Rows} :
    report left right = "" ↔ difference? left right = none := by
  rw [report]
  cases difference? left right with
  | none => simp
  | some difference => simpa using difference.message_ne_empty

/-! ## Members of a row -/

/-- An escaped character is a pair that begins with the escape, or stands for itself. -/
theorem escapeChar_cases (char : Char) :
    ((char = '\\' ∨ char = ',') ∧ escapeChar char = ['\\', char]) ∨
      (char ≠ '\\' ∧ char ≠ ',' ∧ escapeChar char = [char]) := by
  unfold escapeChar
  split
  next marked => exact .inl ⟨by simpa using marked, rfl⟩
  next plain => exact .inr (by simpa using plain)

/-- What an escaped character is followed by tells nothing about it. -/
theorem escapeChar_append_inj {one other : Char} {rest others : List Char}
    (same : escapeChar one ++ rest = escapeChar other ++ others) : one = other ∧ rest = others := by
  rcases escapeChar_cases one with ⟨marked, shown⟩ | ⟨plain, _, shown⟩ <;>
    rcases escapeChar_cases other with ⟨marked', shown'⟩ | ⟨plain', _, shown'⟩ <;>
    simp only [shown, shown', List.cons_append, List.nil_append, List.cons.injEq] at same
  · exact same.2
  · exact absurd same.1.symm plain'
  · exact absurd same.1 plain
  · exact same

/-- An escaped character does not begin with the separator. -/
theorem escapeChar_append_ne {char : Char} {rest others : List Char} :
    escapeChar char ++ rest ≠ ',' :: others := by
  rcases escapeChar_cases char with ⟨_, shown⟩ | ⟨_, plain, shown⟩ <;> rw [shown] <;> simp_all

/-- An escaped member ends at the first separator that is not escaped. -/
theorem escaped_append_inj {left right rest others : List Char}
    (same : left.flatMap escapeChar ++ ',' :: rest = right.flatMap escapeChar ++ ',' :: others) :
    left = right ∧ rest = others := by
  induction left generalizing right with
  | nil =>
    cases right with
    | nil => simpa using same
    | cons other right =>
      rw [List.flatMap_cons, List.append_assoc] at same
      exact absurd same.symm escapeChar_append_ne
  | cons one left hypothesis =>
    cases right with
    | nil =>
      rw [List.flatMap_cons, List.append_assoc] at same
      exact absurd same escapeChar_append_ne
    | cons other right =>
      rw [List.flatMap_cons, List.flatMap_cons, List.append_assoc, List.append_assoc] at same
      obtain ⟨rfl, tail⟩ := escapeChar_append_inj same
      obtain ⟨rfl, behind⟩ := hypothesis tail
      exact ⟨rfl, behind⟩

/-- Two texts that are equal when they are escaped are equal. -/
theorem escape_injective {left right : String} (same : escape left = escape right) :
    left = right := by
  have chars := String.ofList_injective same
  have ended : left.toList.flatMap escapeChar ++ [','] = right.toList.flatMap escapeChar ++ [','] :=
    congrArg (· ++ [',']) chars
  exact String.toList_injective (escaped_append_inj ended).1

/-- What stands behind the first member of a list, which is ended by a separator. -/
def behindFirst : List String → List Char
  | [] => []
  | rest => ' ' :: ((", ".intercalate (rest.map escape)).toList ++ [','])

/-- With a separator at its end a list begins with its first member and a separator. -/
theorem intercalate_escape_ended (first : String) (rest : List String) :
    (", ".intercalate ((first :: rest).map escape)).toList ++ [','] =
      first.toList.flatMap escapeChar ++ ',' :: behindFirst rest := by
  cases rest with
  | nil => simp [behindFirst, escape]
  | cons second rest => simp [behindFirst, escape]

/-- Lists with members are equal if they are written in the same way. -/
theorem intercalate_escape_inj_of_ne_nil {left right : List String} (first : left ≠ [])
    (second : right ≠ [])
    (same : ", ".intercalate (left.map escape) = ", ".intercalate (right.map escape)) :
    left = right := by
  induction left generalizing right with
  | nil => exact absurd rfl first
  | cons one left hypothesis =>
    obtain ⟨other, right, rfl⟩ := List.exists_cons_of_ne_nil second
    have chars := congrArg (fun text => text.toList ++ [',']) same
    simp only [intercalate_escape_ended] at chars
    obtain ⟨heads, tails⟩ := escaped_append_inj chars
    rw [String.toList_injective heads, List.cons.injEq, and_iff_right rfl]
    cases left with
    | nil =>
      cases right with
      | nil => rfl
      | cons next right => cases tails
    | cons next left =>
      cases right with
      | nil => cases tails
      | cons next' right =>
        refine hypothesis (List.cons_ne_nil _ _) (List.cons_ne_nil _ _) ?_
        exact String.toList_injective (List.append_cancel_right (List.cons.inj tails).2)

/-- As many members on both sides are equal if their lists are written in the same way. -/
theorem intercalate_escape_inj {left right : List String} (sizes : left.length = right.length)
    (same : ", ".intercalate (left.map escape) = ", ".intercalate (right.map escape)) :
    left = right := by
  cases left with
  | nil => exact (List.length_eq_zero_iff.1 sizes.symm).symm
  | cons one left =>
    obtain ⟨other, right, rfl⟩ := List.exists_cons_of_length_eq_add_one sizes.symm
    exact intercalate_escape_inj_of_ne_nil (List.cons_ne_nil _ _) (List.cons_ne_nil _ _) same

/-- The members of a row are written by their canonical texts, escaped. -/
theorem canonicalMembers_eq (members : List Value) :
    canonicalMembers members = (members.map canonical).map escape := by
  induction members with
  | nil => rfl
  | cons member members hypothesis => simp [canonicalMembers, hypothesis]

/-- Rows with as many members are written alike only if the members are. -/
theorem canonical_row_inj {left right : List Value} (sizes : left.length = right.length)
    (same : canonical (.row left) = canonical (.row right)) :
    left.map canonical = right.map canonical := by
  simp only [canonical, canonicalMembers_eq, String.append_left_inj, String.append_right_inj] at same
  exact intercalate_escape_inj (by simpa using sizes) same

/-! ## Columns with types -/

/-- The type of a column. -/
inductive ColumnType where
  /-- Texts, which have no null character. -/
  | text
  /-- Whole numbers. -/
  | integer
  /-- Truth values. -/
  | boolean
  /-- Byte strings. -/
  | bytes
  /-- Byte strings that are views of buffers. -/
  | buffer
  deriving DecidableEq

/-- A column of the type can hold the value. -/
inductive ColumnType.Holds : ColumnType → Value → Prop where
  /-- Every column can hold null. -/
  | null (type : ColumnType) : Holds type .null
  /-- A column of texts holds texts without a null character. -/
  | text {value : String} (plain : '\x00' ∉ value.toList) : Holds .text (.text value)
  /-- A column of whole numbers. -/
  | integer (value : Int) : Holds .integer (.integer value)
  /-- A column of truth values. -/
  | boolean (value : Bool) : Holds .boolean (.boolean value)
  /-- A column of byte strings. -/
  | bytes (value : List UInt8) : Holds .bytes (.bytes value)
  /-- A column of views of byte strings. -/
  | buffer (value : List UInt8) : Holds .buffer (.buffer value)

/-- A value is a row of columns with the given types. -/
def IsRowOf (types : List ColumnType) (value : Value) : Prop :=
  ∃ members, value = .row members ∧ List.Forall₂ ColumnType.Holds types members

/-- A hexadecimal digit tells its value. -/
theorem hexDigit_injective : ∀ left < 16, ∀ right < 16,
    Text.hexDigit left = Text.hexDigit right → left = right := by
  decide

/-- Byte strings are equal if their digits are. -/
theorem hexText_injective {left right : List UInt8} (same : Text.hexText left = Text.hexText right) :
    left = right := by
  have chars := String.ofList_injective same
  clear same
  induction left generalizing right with
  | nil =>
    cases right with
    | nil => rfl
    | cons other right => simp [Text.hexDigits] at chars
  | cons one left hypothesis =>
    cases right with
    | nil => simp [Text.hexDigits] at chars
    | cons other right =>
      simp only [List.flatMap_cons, Text.hexDigits, List.nil_append, List.cons_append,
        List.cons.injEq] at chars
      obtain ⟨high, low, rest⟩ := chars
      have below : one.toNat < 256 := one.toNat_lt
      have below' : other.toNat < 256 := other.toNat_lt
      have upper := hexDigit_injective _ (Nat.mod_lt _ (by decide)) _ (Nat.mod_lt _ (by decide)) high
      have lower := hexDigit_injective _ (Nat.mod_lt _ (by decide)) _ (Nat.mod_lt _ (by decide)) low
      have same : one.toNat = other.toNat := by omega
      rw [UInt8.toNat_inj.1 same, hypothesis rest]

/-- A whole number is written without a null character. -/
theorem nul_notMem_repr (value : Int) : '\x00' ∉ value.repr.toList := by
  have digits : ∀ number : Nat, '\x00' ∉ (Nat.repr number).toList := by
    intro number inside
    rw [Nat.repr, String.toList_ofList] at inside
    exact absurd (Nat.isDigit_of_mem_toDigits (by decide) (by decide) inside) (by decide)
  cases value with
  | ofNat number => exact digits number
  | negSucc number =>
    show '\x00' ∉ ("-" ++ Nat.repr (number + 1)).toList
    simpa using digits (number + 1)

/-- A byte string is written without a null character. -/
theorem nul_notMem_hexText (value : List UInt8) : '\x00' ∉ (Text.hexText value).toList := by
  have digits : ∀ number < 16, Text.hexDigit number ≠ '\x00' := by decide
  intro inside
  rw [Text.hexText, String.toList_ofList] at inside
  obtain ⟨byte, _, inside⟩ := List.mem_flatMap.1 inside
  simp only [Text.hexDigits, List.nil_append, List.cons_append, List.mem_cons,
    List.not_mem_nil, or_false] at inside
  rcases inside with high | low
  · exact digits _ (Nat.mod_lt _ (by decide)) high.symm
  · exact digits _ (Nat.mod_lt _ (by decide)) low.symm

/-- Only null is written with the character that marks it. -/
theorem eq_null_of_nul {type : ColumnType} {value : Value} (held : type.Holds value)
    (marked : '\x00' ∈ (canonical value).toList) : value = .null := by
  cases held with
  | null => rfl
  | text plain => exact absurd marked plain
  | integer value => exact absurd marked (nul_notMem_repr value)
  | boolean value => cases value <;> exact absurd marked (by decide)
  | bytes value => exact absurd marked (nul_notMem_hexText value)
  | buffer value => exact absurd marked (nul_notMem_hexText value)

/-- The values of one type have different canonical texts. -/
theorem canonical_inj_of_holds {type : ColumnType} {left right : Value} (held : type.Holds left)
    (held' : type.Holds right) (same : canonical left = canonical right) : left = right := by
  by_cases marked : '\x00' ∈ (canonical left).toList
  · rw [eq_null_of_nul held marked, eq_null_of_nul held' (same ▸ marked)]
  have marked' : '\x00' ∉ (canonical right).toList := same ▸ marked
  cases held with
  | null => exact (marked (by decide)).elim
  | text _ =>
    cases held' with
    | null => exact (marked' (by decide)).elim
    | text _ => exact congrArg Value.text same
  | integer value =>
    cases held' with
    | null => exact (marked' (by decide)).elim
    | integer other => exact congrArg Value.integer (Int.repr_inj.1 same)
  | boolean value =>
    cases held' with
    | null => exact (marked' (by decide)).elim
    | boolean other => revert same; cases value <;> cases other <;> decide
  | bytes value =>
    cases held' with
    | null => exact (marked' (by decide)).elim
    | bytes other => exact congrArg Value.bytes (hexText_injective same)
  | buffer value =>
    cases held' with
    | null => exact (marked' (by decide)).elim
    | buffer other => exact congrArg Value.buffer (hexText_injective same)

/-- Different rows of columns with types have different canonical texts. -/
theorem canonical_injOn (types : List ColumnType) : Set.InjOn canonical {row | IsRowOf types row} := by
  rintro _ ⟨left, rfl, held⟩ _ ⟨right, rfl, held'⟩ same
  have members := canonical_row_inj (held.length_eq.symm.trans held'.length_eq) same
  clear same
  induction held generalizing right with
  | nil => rw [List.forall₂_nil_left_iff.1 held']
  | cons one _ hypothesis =>
    obtain ⟨other, rest, one', others, rfl⟩ := List.forall₂_cons_left_iff.1 held'
    simp only [List.map_cons, List.cons.injEq] at members
    rw [canonical_inj_of_holds one one' members.1, Value.row.inj (hypothesis rest others members.2)]

/-- Result sets of rows with the same column types, each member null or of the type of its column,
are reported to be equal exactly if they hold the same rows, each as often, in whatever order. -/
theorem report_eq_empty_iff_perm (types : List ColumnType) {left right : Rows}
    (typed : ∀ row ∈ left, IsRowOf types row) (typed' : ∀ row ∈ right, IsRowOf types row) :
    report (some left) (some right) = "" ↔ left.Perm right := by
  rw [report_eq_empty, difference?_eq_none_iff]
  refine ⟨fun permuted => ?_, List.Perm.map canonical⟩
  -- on rows with these types the texts can be read back
  let typedRows := {row | IsRowOf types row}
  let readBack := Function.invFunOn canonical typedRows
  have inverse : Set.LeftInvOn readBack canonical typedRows :=
    (canonical_injOn types).leftInvOn_invFunOn
  have restored : ∀ rows : Rows, (∀ row ∈ rows, IsRowOf types row) →
      (rows.map canonical).map readBack = rows := by
    intro rows typed
    rw [List.map_map]
    exact (List.map_congr_left fun row held => inverse (typed row held)).trans (List.map_id _)
  rw [← restored left typed, ← restored right typed']
  exact permuted.map readBack

/-- Rows that only differ in the place of separators, escapes and null values are told apart, and
rows in another order are not. -/
theorem report_of_separators :
    report
        (some [.row [.text "a,", .text " b\\"], .row [.null, .text "[NULL]"]])
        (some [.row [.text "a", .text ", b\\"], .row [.text "[NULL]", .null]]) ≠ "" ∧
      report
        (some [.row [.text "a,", .text " b\\"], .row [.null, .text "[NULL]"]])
        (some [.row [.null, .text "[NULL]"], .row [.text "a,", .text " b\\"]]) = "" := by
  have typed : ∀ one two : String, '\x00' ∉ one.toList → '\x00' ∉ two.toList →
      IsRowOf [.text, .text] (.row [.text one, .text two]) := fun one two plain plain' =>
    ⟨_, rfl, .cons (.text plain) (.cons (.text plain') .nil)⟩
  have first : IsRowOf [.text, .text] (.row [.null, .text "[NULL]"]) :=
    ⟨_, rfl, .cons (.null _) (.cons (.text (by decide)) .nil)⟩
  have second : IsRowOf [.text, .text] (.row [.text "[NULL]", .null]) :=
    ⟨_, rfl, .cons (.text (by decide)) (.cons (.null _) .nil)⟩
  have left := typed "a," " b\\" (by decide) (by decide)
  have right := typed "a" ", b\\" (by decide) (by decide)
  constructor
  · rw [ne_eq, report_eq_empty_iff_perm [.text, .text] (by simp [left, first])
      (by simp [right, second])]
    decide
  · rw [report_eq_empty_iff_perm [.text, .text] (by simp [left, first]) (by simp [left, first])]
    decide

end Rows

end SerialCheck

import SerialCheck.Proofs.RowTexts

/-!
# Nested rows with one canonical text

A row may hold arrays and composite values, which are rows again. The escapes keep the members of every
level apart (`intercalate_escape_inj_of_ne_nil`), but nothing marks a text that is written as a list, and a list
of one empty text is written as one without members. These are the only values that are confused
(`canonical_eq_iff_sameUpTo`): the arrays `{}` and `{""}` have one canonical text, and so have the
array `{a}` and the text `(a)`. Values without such parts have the same structure and the same members
if their canonical texts are equal.
-/
namespace SerialCheck.Rows

/-- The members of a row or an array. -/
def items? : Value → Option (List Value)
  | .row members | .array members => some members
  | _ => none

/-- The value consists of null values, texts without a null character and, to any depth, rows and
arrays of such values. -/
inductive IsNested : Value → Prop where
  /-- The null value. -/
  | null : IsNested .null
  /-- A text without a null character. -/
  | text {value : String} (plain : '\x00' ∉ value.toList) : IsNested (.text value)
  /-- A row or an array of nested values. -/
  | list {value : Value} {members : List Value} (items : items? value = some members)
    (each : ∀ member ∈ members, IsNested member) : IsNested value

/-- The values have the same structure and the same members, but for parts that are related as given.
Rows and arrays are not told apart. -/
inductive SameUpTo (besides : Value → Value → Prop) : Value → Value → Prop where
  /-- The null value on both sides. -/
  | null : SameUpTo besides .null .null
  /-- One text on both sides. -/
  | text (value : String) : SameUpTo besides (.text value) (.text value)
  /-- Lists of as many members, pair by pair. -/
  | list {left right : Value} {lefts rights : List Value} (items : items? left = some lefts)
    (items' : items? right = some rights) (sizes : lefts.length = rights.length)
    (each : ∀ pair ∈ lefts.zip rights, SameUpTo besides pair.1 pair.2) :
    SameUpTo besides left right
  /-- Parts that are related. -/
  | besides {left right : Value} (related : besides left right) : SameUpTo besides left right

/-- The values have the same structure and the same members. -/
def Same : Value → Value → Prop := SameUpTo fun _ _ => False

/-- The second value is a list that is written as the first one. -/
inductive Disguised : Value → Value → Prop where
  /-- A text that the list is written as. -/
  | text {list : Value} (items : (items? list).isSome) : Disguised (.text (canonical list)) list
  /-- A list of one empty text; the other list is empty. -/
  | empty {left right : Value} (items : items? left = some [])
    (items' : items? right = some [.text ""]) : Disguised left right

/-- One of the values is a list that is written as the other one. -/
def Confused (left right : Value) : Prop := Disguised left right ∨ Disguised right left

/-- No text in the value is written as a list, and no list in it is empty. -/
inductive IsClear : Value → Prop where
  /-- The null value. -/
  | null : IsClear .null
  /-- A text that no list is written as. -/
  | text {value : String} (apart : ∀ list, (items? list).isSome → canonical list ≠ value) :
    IsClear (.text value)
  /-- A row or an array of one or more such values. -/
  | list {value : Value} {members : List Value} (items : items? value = some members)
    (filled : members ≠ []) (each : ∀ member ∈ members, IsClear member) : IsClear value

/-! ## The canonical text of a list -/

/-- A list is written in parentheses. -/
theorem canonical_list {value : Value} {members : List Value} (items : items? value = some members) :
    canonical value = "(" ++ ", ".intercalate ((members.map canonical).map escape) ++ ")" := by
  cases value with
  | row held | array held =>
    obtain rfl : held = members := Option.some.inj items
    rw [canonical, canonicalMembers_eq]
  | _ => cases items

/-- A list begins with a parenthesis. -/
theorem head?_canonical_list {value : Value} (items : (items? value).isSome) :
    (canonical value).toList.head? = some '(' := by
  obtain ⟨members, items⟩ := Option.isSome_iff_exists.1 items
  rw [canonical_list items, String.toList_append, String.toList_append]
  rfl

/-- A text without a parenthesis at its front is not written as a list. -/
theorem IsClear.of_head? {value : String} (front : value.toList.head? ≠ some '(') :
    IsClear (.text value) :=
  .text fun _ items written => front (written ▸ head?_canonical_list items)

/-- Nothing is written for a list without members and for one of an empty text. -/
theorem of_intercalate_escape_eq_empty {texts : List String}
    (empty : ", ".intercalate (texts.map escape) = "") : texts = [] ∨ texts = [""] := by
  cases texts with
  | nil => exact .inl rfl
  | cons one rest =>
    have chars := intercalate_escape_ended one rest
    have alone : "".toList.flatMap escapeChar ++ [','] =
        one.toList.flatMap escapeChar ++ ',' :: behindFirst rest := by
      rw [← chars, empty]
      rfl
    obtain ⟨first, behind⟩ := escaped_append_inj alone
    obtain rfl : "" = one := String.toList_injective first
    cases rest with
    | nil => exact .inr rfl
    | cons second rest => cases behind

/-! ## Nested values with one canonical text -/

/-- A nested value that is written as an empty text is one. -/
theorem IsNested.eq_of_canonical_empty {value : Value} (nested : IsNested value)
    (empty : canonical value = "") : value = .text "" := by
  cases nested with
  | null => exact absurd empty (by decide)
  | text => exact congrArg Value.text empty
  | list items =>
    have front := head?_canonical_list (Option.isSome_of_eq_some items)
    rw [empty] at front
    cases front

/-- A nested list that is written as one without members is one or holds an empty text alone. -/
theorem items_of_written_empty {members : List Value} (each : ∀ member ∈ members, IsNested member)
    (empty : ", ".intercalate ((members.map canonical).map escape) = "") :
    members = [] ∨ members = [.text ""] := by
  rcases of_intercalate_escape_eq_empty empty with none | one
  · exact .inl (List.map_eq_nil_iff.1 none)
  · obtain ⟨member, rest, rfl, alone, ended⟩ := List.map_eq_cons_iff.1 one
    obtain rfl := List.map_eq_nil_iff.1 ended
    rw [(each member List.mem_cons_self).eq_of_canonical_empty alone]
    exact .inr rfl

/-- Nested lists that are written in the same way have the same structure, up to confusion, if their
members do. -/
theorem sameUpTo_of_written {left right : Value} {lefts rights : List Value}
    (items : items? left = some lefts) (items' : items? right = some rights)
    (each : ∀ member ∈ lefts, IsNested member) (each' : ∀ member ∈ rights, IsNested member)
    (members : ∀ member ∈ lefts, ∀ other ∈ rights, canonical member = canonical other →
      SameUpTo Confused member other)
    (same : canonical left = canonical right) : SameUpTo Confused left right := by
  rw [canonical_list items, canonical_list items', String.append_left_inj,
    String.append_right_inj] at same
  by_cases first : lefts = []
  · subst first
    rcases items_of_written_empty each' same.symm with rfl | rfl
    · exact .list items items' rfl nofun
    · exact .besides (.inl (.empty items items'))
  by_cases second : rights = []
  · subst second
    rcases items_of_written_empty each same with rfl | rfl
    · exact absurd rfl first
    · exact .besides (.inr (.empty items' items))
  have texts : lefts.map canonical = rights.map canonical :=
    intercalate_escape_inj_of_ne_nil (by simpa using first) (by simpa using second) same
  rw [← List.forall₂_eq_eq_eq, List.forall₂_map_left_iff, List.forall₂_map_right_iff,
    List.forall₂_iff_zip] at texts
  refine .list items items' texts.1 fun pair inside => ?_
  obtain ⟨one, other⟩ := List.of_mem_zip inside
  exact members _ one _ other (texts.2 inside)

/-- A text that is written as the null value has a null character. -/
theorem nul_of_canonical_null {value : String}
    (same : canonical (.text value) = canonical .null) : '\x00' ∈ value.toList := by
  obtain rfl : value = nullMark := same
  decide

/-- Nested values with one canonical text have the same structure, up to confusion. -/
theorem sameUpTo_of_canonical {left right : Value} (nested : IsNested left)
    (nested' : IsNested right) (same : canonical left = canonical right) :
    SameUpTo Confused left right := by
  have apart : ∀ {list : Value} {members : List Value}, items? list = some members →
      canonical list ≠ canonical .null := by
    intro list members items written
    have front := head?_canonical_list (Option.isSome_of_eq_some items)
    rw [written] at front
    exact absurd front (by decide)
  induction nested generalizing right with
  | null =>
    cases nested' with
    | null => exact .null
    | text plain => exact absurd (nul_of_canonical_null same.symm) plain
    | list items => exact absurd same.symm (apart items)
  | @text value plain =>
    cases nested' with
    | null => exact absurd (nul_of_canonical_null same) plain
    | @text other =>
      obtain rfl : value = other := same
      exact .text value
    | list items =>
      obtain rfl : value = canonical right := same
      exact .besides (.inl (.text (Option.isSome_of_eq_some items)))
  | @list value members items each hypothesis =>
    cases nested' with
    | null => exact absurd same (apart items)
    | @text other =>
      obtain rfl : canonical value = other := same
      exact .besides (.inr (.text (Option.isSome_of_eq_some items)))
    | list items' each' =>
      exact sameUpTo_of_written items items' each each'
        (fun member inside other inside' => hypothesis member inside (each' other inside')) same

/-- A list that is written as a value has its canonical text. -/
theorem Disguised.canonical_eq {left right : Value} (disguised : Disguised left right) :
    canonical left = canonical right := by
  cases disguised with
  | text items => rfl
  | empty items items' =>
    rw [canonical_list items, canonical_list items']
    rfl

/-- Values with the same structure, up to confusion, have one canonical text. -/
theorem SameUpTo.canonical_eq {left right : Value} (same : SameUpTo Confused left right) :
    canonical left = canonical right := by
  induction same with
  | null => rfl
  | text => rfl
  | list items items' sizes each hypothesis =>
    have texts : List.Forall₂ (fun left right => canonical left = canonical right) _ _ :=
      List.forall₂_iff_zip.2 ⟨sizes, fun inside => hypothesis _ inside⟩
    rw [← List.forall₂_map_right_iff, ← List.forall₂_map_left_iff, List.forall₂_eq_eq_eq] at texts
    rw [canonical_list items, canonical_list items', texts]
  | besides related => exact related.elim Disguised.canonical_eq fun other => other.canonical_eq.symm

/-- A clear list has members, and they are clear. -/
theorem IsClear.members {value : Value} {members : List Value} (clear : IsClear value)
    (items : items? value = some members) :
    members ≠ [] ∧ ∀ member ∈ members, IsClear member := by
  cases clear with
  | null => cases items
  | text => cases items
  | list items' filled each =>
    obtain rfl := Option.some.inj (items'.symm.trans items)
    exact ⟨filled, each⟩

/-- A clear value is not a list in disguise, and no clear list is an empty one. -/
theorem IsClear.not_disguised {left right : Value} (clear : IsClear left) : ¬Disguised left right := by
  intro disguised
  cases disguised with
  | text items =>
    cases clear with
    | text apart => exact apart right items rfl
    | list items' => cases items'
  | empty items => exact (clear.members items).1 rfl

/-- Clear values with the same structure, up to confusion, have the same structure. -/
theorem SameUpTo.same {left right : Value} (same : SameUpTo Confused left right)
    (clear : IsClear left) (clear' : IsClear right) : Same left right := by
  induction same with
  | null => exact .null
  | text value => exact .text value
  | list items items' sizes each hypothesis =>
    refine .list items items' sizes fun pair inside => ?_
    obtain ⟨one, other⟩ := List.of_mem_zip inside
    exact hypothesis pair inside ((clear.members items).2 _ one) ((clear'.members items').2 _ other)
  | besides related => exact (related.elim clear.not_disguised clear'.not_disguised).elim

/-- Lists with the same structure have as many members, with the same structure pair by pair. -/
theorem Same.of_items {left right : Value} {lefts rights : List Value} (same : Same left right)
    (items : items? left = some lefts) (items' : items? right = some rights) :
    lefts.length = rights.length ∧ ∀ pair ∈ lefts.zip rights, Same pair.1 pair.2 := by
  cases same with
  | null => cases items
  | text => cases items
  | list held held' sizes each =>
    obtain rfl := Option.some.inj (held.symm.trans items)
    obtain rfl := Option.some.inj (held'.symm.trans items')
    exact ⟨sizes, each⟩
  | besides related => exact related.elim

/-- Nested rows have one canonical text exactly if they have the same structure and the same members, but
for lists that are written as what stands at their places. Where no text is written as a list and no
list is empty, rows with one canonical text have the same structure and the same members. -/
theorem canonical_eq_iff_sameUpTo {left right : Value} (nested : IsNested left)
    (nested' : IsNested right) :
    (canonical left = canonical right ↔ SameUpTo Confused left right) ∧
      (IsClear left → IsClear right → canonical left = canonical right → Same left right) := by
  refine ⟨⟨sameUpTo_of_canonical nested nested', SameUpTo.canonical_eq⟩, fun clear clear' same => ?_⟩
  exact (sameUpTo_of_canonical nested nested' same).same clear clear'

/-- The array of two texts and the array of one text with a separator have different canonical texts, in
rows that also have a null value. -/
theorem canonical_ne_of_separator :
    canonical (.row [.array [.text "a", .text "b"], .null]) ≠
      canonical (.row [.array [.text "a, b"], .null]) := by
  let left : Value := .row [.array [.text "a", .text "b"], .null]
  let right : Value := .row [.array [.text "a, b"], .null]
  have nested : IsNested left :=
    .list rfl (List.forall_mem_cons.2 ⟨.list rfl (List.forall_mem_cons.2 ⟨.text (by decide),
      List.forall_mem_singleton.2 (.text (by decide))⟩), List.forall_mem_singleton.2 .null⟩)
  have nested' : IsNested right :=
    .list rfl (List.forall_mem_cons.2 ⟨.list rfl (List.forall_mem_singleton.2 (.text (by decide))),
      List.forall_mem_singleton.2 .null⟩)
  have clear : IsClear left :=
    .list rfl nofun (List.forall_mem_cons.2 ⟨.list rfl nofun (List.forall_mem_cons.2
      ⟨.of_head? (by decide), List.forall_mem_singleton.2 (.of_head? (by decide))⟩),
      List.forall_mem_singleton.2 .null⟩)
  have clear' : IsClear right :=
    .list rfl nofun (List.forall_mem_cons.2 ⟨.list rfl nofun
      (List.forall_mem_singleton.2 (.of_head? (by decide))), List.forall_mem_singleton.2 .null⟩)
  intro alike
  have same := (canonical_eq_iff_sameUpTo nested nested').2 clear clear' alike
  have arrays := (same.of_items rfl rfl).2 _ List.mem_cons_self
  exact absurd (Same.of_items arrays rfl rfl).1 (by decide)

/-- A text in parentheses and an array have one canonical text, and so have the array of one empty text
and the empty array. -/
theorem canonical_eq_of_disguise :
    (IsNested (.row [.text "(a)"]) ∧ IsNested (.row [.array [.text "a"]]) ∧
      canonical (.row [.text "(a)"]) = canonical (.row [.array [.text "a"]]) ∧
      ¬Same (.row [.text "(a)"]) (.row [.array [.text "a"]])) ∧
    (IsNested (.row [.array []]) ∧ IsNested (.row [.array [.text ""]]) ∧
      canonical (.row [.array []]) = canonical (.row [.array [.text ""]]) ∧
      ¬Same (.row [.array []]) (.row [.array [.text ""]])) := by
  have single : ∀ {member : Value}, IsNested member → IsNested (.row [member]) :=
    fun nested => .list rfl (List.forall_mem_singleton.2 nested)
  have listed : ∀ {text : String}, '\x00' ∉ text.toList → IsNested (.array [.text text]) :=
    fun plain => .list rfl (List.forall_mem_singleton.2 (.text plain))
  refine ⟨⟨single (.text (by decide)), single (listed (by decide)), by decide, fun same => ?_⟩,
    single (.list rfl nofun), single (listed (by decide)), by decide, fun same => ?_⟩
  · cases (same.of_items rfl rfl).2 _ List.mem_cons_self with
    | list items => cases items
    | besides related => exact related
  · have arrays := (same.of_items rfl rfl).2 _ List.mem_cons_self
    exact absurd (Same.of_items arrays rfl rfl).1 (by decide)

end SerialCheck.Rows

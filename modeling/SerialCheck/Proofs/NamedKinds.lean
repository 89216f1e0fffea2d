import Mathlib.Data.Finset.Image
import Mathlib.Data.List.TakeWhile
import SerialCheck.Settings

/-!
# Kinds named in a text

A text names kinds of statements between commas. Reading it is a homomorphism: of two texts with a comma
between them the first error is reported, or else the union of their kinds is read. The kinds that are read
are those that are named, in whatever order, letter case and padding and however often, so the texts that
are read as a set of kinds are exactly those that render it (`Settings.parseKinds_laws`).
-/
namespace SerialCheck

/-! ## Cutting, trimming and upper case -/

namespace Text

variable {separator : Char}

/-- Where a separator stands, what is before it and what is behind it are cut apart. -/
theorem splitAt_append (front back : List Char) :
    splitAt separator (front ++ separator :: back) = splitAt separator front ++ splitAt separator back := by
  induction front with
  | nil => simp [splitAt]
  | cons head tail hypothesis =>
    rw [List.cons_append, splitAt, splitAt, hypothesis]
    split
    · rfl
    · cases cut : splitAt separator tail with
      | nil => exact absurd cut (splitAt_ne_nil _ _)
      | cons piece pieces => rfl

/-- What does not hold the separator is not cut. -/
theorem splitAt_of_not_mem {piece : List Char} (absent : separator ∉ piece) :
    splitAt separator piece = [piece] := by
  induction piece with
  | nil => rfl
  | cons head tail hypothesis =>
    rw [List.mem_cons, not_or] at absent
    rw [splitAt, hypothesis absent.2, if_neg (by simpa using Ne.symm absent.1)]

/-- Pieces that do not hold the separator are found again in their join. -/
theorem splitAt_join {pieces : List (List Char)} (some_there : pieces ≠ [])
    (absent : ∀ piece ∈ pieces, separator ∉ piece) : splitAt separator (join separator pieces) = pieces := by
  induction pieces with
  | nil => exact absurd rfl some_there
  | cons piece pieces hypothesis =>
    have alone := splitAt_of_not_mem (absent piece List.mem_cons_self)
    cases pieces with
    | nil => rw [join, alone]
    | cons next pieces =>
      rw [join, splitAt_append, alone,
        hypothesis (List.cons_ne_nil _ _) fun other inside => absent other (List.mem_cons_of_mem _ inside)]
      rfl

/-- The characters of texts with commas between them. -/
theorem toList_intercalate (texts : List String) :
    (",".intercalate texts).toList = join ',' (texts.map String.toList) := by
  induction texts with
  | nil => rfl
  | cons text texts hypothesis =>
    cases texts with
    | nil => rw [String.intercalate_singleton]; rfl
    | cons next texts =>
      rw [String.intercalate_cons_cons, String.toList_append, String.toList_append, hypothesis,
        List.append_assoc]
      rfl

/-- The pieces of a text between its commas. -/
def pieces (text : String) : List String := (splitAt ',' text.toList).map String.ofList

theorem pieces_append (front back : String) : pieces (front ++ "," ++ back) = pieces front ++ pieces back := by
  have chars : (front ++ "," ++ back).toList = front.toList ++ ',' :: back.toList := by simp
  rw [pieces, chars, splitAt_append, List.map_append, pieces, pieces]

theorem intercalate_pieces (text : String) : ",".intercalate (pieces text) = text := by
  have same : (pieces text).map String.toList = splitAt ',' text.toList := by simp [pieces]
  rw [← String.toList_inj, toList_intercalate, same, join_splitAt]

theorem pieces_intercalate {texts : List String} (some_there : texts ≠ [])
    (absent : ∀ text ∈ texts, ',' ∉ text.toList) : pieces (",".intercalate texts) = texts := by
  have cut : splitAt ',' (join ',' (texts.map String.toList)) = texts.map String.toList :=
    splitAt_join (by simpa using some_there) (by simpa using absent)
  rw [pieces, toList_intercalate, cut]
  simp

/-- The text consists of blanks. -/
def AllBlank (text : String) : Prop := ∀ char ∈ text.toList, isBlank char = true

theorem AllBlank.append {front back : String} (first : AllBlank front) (second : AllBlank back) :
    AllBlank (front ++ back) := by
  intro char inside
  rw [String.toList_append, List.mem_append] at inside
  exact inside.elim (first char) (second char)

/-- What is trimmed off is blank. -/
theorem exists_padding (text : String) :
    ∃ before after, AllBlank before ∧ AllBlank after ∧ text = before ++ trim text ++ after := by
  let rest := text.toList.dropWhile isBlank
  refine ⟨String.ofList (text.toList.takeWhile isBlank), String.ofList (rest.reverse.takeWhile isBlank).reverse,
    ?_, ?_, ?_⟩
  · intro char inside
    rw [String.toList_ofList] at inside
    exact List.mem_takeWhile_imp inside
  · intro char inside
    rw [String.toList_ofList, List.mem_reverse] at inside
    exact List.mem_takeWhile_imp inside
  · have ends : trimWhile isBlank text.toList ++ (rest.reverse.takeWhile isBlank).reverse = rest := by
      rw [trimWhile, dropEndWhile, ← List.reverse_append, List.takeWhile_append_dropWhile, List.reverse_reverse]
    rw [← String.toList_inj, String.toList_append, String.toList_append, trim, String.toList_ofList,
      String.toList_ofList, String.toList_ofList, List.append_assoc, ends, List.takeWhile_append_dropWhile]

/-- Nothing is left of blanks. -/
theorem trim_allBlank {text : String} (blank : AllBlank text) : trim text = "" := by
  rw [trim, trimWhile, List.dropWhile_eq_nil_iff.2 blank]
  rfl

/-- Blanks in front of something solid are dropped. -/
theorem dropWhile_padded {padding chars : List Char} (blank : ∀ char ∈ padding, isBlank char = true)
    (solid : ∀ char, chars.head? = some char → isBlank char = false) :
    (padding ++ chars).dropWhile isBlank = chars := by
  rw [List.dropWhile_append_of_pos blank]
  cases chars with
  | nil => rfl
  | cons first rest => rw [List.dropWhile_cons, solid first rfl, if_neg Bool.false_ne_true]

/-- A word without blanks is left of what it stands in between blanks. -/
theorem trim_padded {before word after : String} (front : AllBlank before) (back : AllBlank after)
    (solid : ∀ char ∈ word.toList, isBlank char = false) : trim (before ++ word ++ after) = word := by
  cases letters : word.toList with
  | nil =>
    obtain rfl := String.toList_eq_nil_iff.1 letters
    rw [String.append_empty]
    exact trim_allBlank (front.append back)
  | cons first rest =>
    -- the word begins and ends with what is no blank, so each end is dropped up to it
    rw [letters] at solid
    have left : (before.toList ++ (first :: rest ++ after.toList)).dropWhile isBlank =
        first :: rest ++ after.toList :=
      dropWhile_padded front fun char head => by
        rw [List.cons_append, List.head?_cons, Option.some.injEq] at head
        exact head ▸ solid first List.mem_cons_self
    have right : (after.toList.reverse ++ (first :: rest).reverse).dropWhile isBlank = (first :: rest).reverse :=
      dropWhile_padded (fun char inside => back char (List.mem_reverse.1 inside)) fun char last =>
        solid char (List.mem_reverse.1 (List.mem_of_head? last))
    rw [trim, String.toList_append, String.toList_append, letters, trimWhile, List.append_assoc, left,
      dropEndWhile, List.reverse_append, right, List.reverse_reverse, ← letters, String.ofList_toList]

/-- Blanks have no case. -/
theorem upperChar_of_isBlank {char : Char} (blank : isBlank char = true) : upperChar char = [char] := by
  have known : ∀ code ∈ [0x9, 0xA, 0xB, 0xC, 0xD, 0x1C, 0x1D, 0x1E, 0x1F, 0x20, 0x85, 0xA0, 0x1680,
      0x2000, 0x2001, 0x2002, 0x2003, 0x2004, 0x2005, 0x2006, 0x2007, 0x2008, 0x2009, 0x200A, 0x2028,
      0x2029, 0x202F, 0x205F, 0x3000], upperChar (Char.ofNat code) = [Char.ofNat code] := by decide +kernel
  rw [← Char.ofNat_toNat char]
  apply known
  simp only [isBlank, Bool.or_eq_true, Bool.and_eq_true, decide_eq_true_eq, beq_iff_eq] at blank
  simp only [List.mem_cons, List.not_mem_nil, or_false]
  omega

/-- Every character has an upper case. -/
theorem upperChar_ne_nil (char : Char) : upperChar char ≠ [] := by
  have expanded : ∀ entry ∈ upperExpansions, entry.2 ≠ [] := by decide +kernel
  unfold upperChar changeCase
  split
  · split <;> exact List.cons_ne_nil _ _
  · split
    next codes found =>
      obtain ⟨before, after, table, -⟩ := List.lookup_eq_some_iff.1 found
      have listed : (char.toNat, codes) ∈ upperExpansions := by
        rw [table]
        exact List.mem_append_right _ List.mem_cons_self
      exact mt List.map_eq_nil_iff.1 (expanded _ listed)
    · split <;> exact List.cons_ne_nil _ _

/-- So only the empty text has an empty upper case. -/
theorem eq_empty_of_upper {text : String} (nothing : upper text = "") : text = "" := by
  rw [upper, String.ofList_eq_empty_iff, List.flatMap_eq_nil_iff] at nothing
  rw [← String.toList_eq_nil_iff, List.eq_nil_iff_forall_not_mem]
  exact fun char inside => upperChar_ne_nil char (nothing char inside)

/-- A character that is its own upper case stands in the upper case of each text that it stands in. -/
theorem mem_upper {char : Char} {text : String} (fixed : upperChar char = [char])
    (inside : char ∈ text.toList) : char ∈ (upper text).toList := by
  rw [upper, String.toList_ofList, List.mem_flatMap]
  exact ⟨char, inside, by rw [fixed]; exact List.mem_singleton_self char⟩

/-- The text with small letters at the chosen places. -/
def lowerAt (chosen : Nat → Bool) (text : String) : String :=
  String.ofList (text.toList.mapIdx fun place char => if chosen place then char.toLower else char)

/-- Capitals are found again in upper case, whichever of them are made small. -/
theorem flatMap_upperChar_mapIdx {chars : List Char}
    (capital : ∀ char ∈ chars, upperChar char = [char] ∧ upperChar char.toLower = [char])
    (chosen : Nat → Bool) :
    (chars.mapIdx fun place char => if chosen place then char.toLower else char).flatMap upperChar = chars := by
  induction chars generalizing chosen with
  | nil => rfl
  | cons first rest hypothesis =>
    have known := capital first List.mem_cons_self
    have others := hypothesis (fun char inside => capital char (List.mem_cons_of_mem _ inside))
      fun place => chosen (place + 1)
    rw [List.mapIdx_cons, List.flatMap_cons, others]
    split
    · rw [known.2, List.singleton_append]
    · rw [known.1, List.singleton_append]

theorem upper_lowerAt {text : String}
    (capital : ∀ char ∈ text.toList, upperChar char = [char] ∧ upperChar char.toLower = [char])
    (chosen : Nat → Bool) : upper (lowerAt chosen text) = text := by
  rw [upper, lowerAt, String.toList_ofList, flatMap_upperChar_mapIdx capital, String.ofList_toList]

end Text

/-! ## Sets of kinds -/

namespace StatementKind

theorem name_injective : Function.Injective name := by
  intro first second same
  rw [← Option.some.injEq, ← ofName?_name first, ← ofName?_name second, same]

theorem mem_all (kind : StatementKind) : kind ∈ all := by cases kind <;> decide

theorem ofName?_eq_some_iff {name : String} {kind : StatementKind} :
    ofName? name = some kind ↔ kind.name = name := by
  constructor
  · intro found
    simpa using List.find?_some found
  · rintro rfl
    exact ofName?_name kind

/-- Names are written in capitals. -/
theorem capital_name (kind : StatementKind) :
    ∀ char ∈ kind.name.toList, Text.upperChar char = [char] ∧ Text.upperChar char.toLower = [char] := by
  have each : (kind.name.toList.all fun char =>
      Text.upperChar char == [char] && Text.upperChar char.toLower == [char]) = true := by
    cases kind <;> decide
  simpa only [List.all_eq_true, Bool.and_eq_true, beq_iff_eq] using each

/-- Names hold neither blanks nor commas. -/
theorem solid_name (kind : StatementKind) :
    ∀ char ∈ kind.name.toList, Text.isBlank char = false ∧ char ≠ ',' := by
  have each : (kind.name.toList.all fun char => !Text.isBlank char && char != ',') = true := by
    cases kind <;> decide
  simpa only [List.all_eq_true, Bool.and_eq_true, Bool.not_eq_true', bne_iff_ne] using each

end StatementKind

namespace Settings

open StatementKind (name_injective mem_all ofName?_eq_some_iff solid_name capital_name)

/-- The list that stands for a set of kinds. -/
def inOrder (kinds : Finset StatementKind) : List StatementKind := StatementKind.all.filter (· ∈ kinds)

theorem mem_inOrder {kinds : Finset StatementKind} {kind : StatementKind} :
    kind ∈ inOrder kinds ↔ kind ∈ kinds := by
  simp [inOrder, mem_all]

/-- Different sets have different lists. -/
theorem toFinset_inOrder (kinds : Finset StatementKind) : (inOrder kinds).toFinset = kinds := by
  ext kind
  rw [List.mem_toFinset, mem_inOrder]

/-- The different kinds of a list are those of its set. -/
theorem kindSet_eq (kinds : List StatementKind) : kindSet kinds = inOrder kinds.toFinset := by
  refine List.filter_congr fun kind _ => ?_
  rw [List.contains_eq_mem]
  exact decide_eq_decide.2 List.mem_toFinset.symm

/-! ## The names in a text -/

/-- The name in a piece: what stands between the blanks around it, in upper case. -/
def nameIn (piece : String) : String := Text.upper (Text.trim piece)

/-- The names in the pieces that are not blank. -/
def namesOf (pieces : List String) : List String := (pieces.map nameIn).filter (· ≠ "")

/-- The names between the commas of a text, in order. -/
def namesIn (text : String) : List String := namesOf (Text.pieces text)

theorem mem_namesOf {pieces : List String} {name : String} :
    name ∈ namesOf pieces ↔ (∃ piece ∈ pieces, nameIn piece = name) ∧ name ≠ "" := by
  simp [namesOf]

theorem namesIn_append (front back : String) :
    namesIn (front ++ "," ++ back) = namesIn front ++ namesIn back := by
  rw [namesIn, Text.pieces_append, namesOf, List.map_append, List.filter_append]
  rfl

/-- The kind that has a name. -/
def kindNamed (name : String) : Except SettingsError StatementKind :=
  match StatementKind.ofName? name with
  | some kind => .ok kind
  | none => .error (.unknownKind name)

theorem kindNamed_eq_ok_iff {name : String} {kind : StatementKind} :
    kindNamed name = .ok kind ↔ kind.name = name := by
  rw [← ofName?_eq_some_iff, kindNamed]
  cases StatementKind.ofName? name <;> simp

theorem kindNamed_eq_error_iff {name : String} {error : SettingsError} :
    kindNamed name = .error error ↔ (∀ kind : StatementKind, kind.name ≠ name) ∧ error = .unknownKind name := by
  simp only [ne_eq, ← ofName?_eq_some_iff, kindNamed]
  cases StatementKind.ofName? name <;> simp [eq_comm]

theorem parseKind_eq (piece : List Char) :
    parseKind piece =
      if nameIn (String.ofList piece) = "" then .ok none
      else (kindNamed (nameIn (String.ofList piece))).map some := by
  unfold parseKind kindNamed
  rw [← nameIn]
  by_cases nothing : nameIn (String.ofList piece) = ""
  · rw [nothing]
    rfl
  · have filled : ¬(nameIn (String.ofList piece)).isEmpty = true := by rwa [String.isEmpty_iff]
    simp only [if_neg filled, if_neg nothing]
    cases StatementKind.ofName? (nameIn (String.ofList piece)) <;> rfl

/-- To read the pieces is to read their names one after the other. -/
theorem parsePieces_eq (pieces : List (List Char)) :
    parsePieces pieces = (namesOf (pieces.map String.ofList)).mapM kindNamed := by
  induction pieces with
  | nil => rfl
  | cons piece pieces hypothesis =>
    rw [parsePieces, parseKind_eq, hypothesis, namesOf, namesOf, List.map_cons, List.map_cons]
    generalize nameIn (String.ofList piece) = name
    generalize (pieces.map String.ofList).map nameIn = names
    by_cases nothing : name = ""
    · rw [if_pos nothing, List.filter_cons_of_neg (by simpa using nothing)]
      cases (names.filter (· ≠ "")).mapM kindNamed <;> rfl
    · rw [if_neg nothing, List.filter_cons_of_pos (by simpa using nothing), List.mapM_cons]
      cases kindNamed name <;> rfl

theorem parseKinds_eq (text : String) : parseKinds text = ((namesIn text).mapM kindNamed).map kindSet := by
  rw [parseKinds, parsePieces_eq, namesIn, Text.pieces]

/-- Names are read exactly if they are those of kinds. -/
theorem mapM_kindNamed_eq_ok_iff {names : List String} {kinds : List StatementKind} :
    names.mapM kindNamed = .ok kinds ↔ kinds.map StatementKind.name = names := by
  induction names generalizing kinds with
  | nil => simp [pure, Except.pure, eq_comm]
  | cons name names hypothesis =>
    rw [List.mapM_cons, List.map_eq_cons_iff]
    simp only [← kindNamed_eq_ok_iff, ← hypothesis]
    cases kindNamed name <;> cases names.mapM kindNamed <;>
      simp [bind, Except.bind, pure, Except.pure, eq_comm]

/-- The name is the first one that no kind has: the names in front of it are those of kinds. -/
def FirstUnknown (names : List String) (name : String) : Prop :=
  ∃ (kinds : List StatementKind) (rest : List String),
    names = kinds.map StatementKind.name ++ name :: rest ∧ ∀ kind : StatementKind, kind.name ≠ name

theorem firstUnknown_cons {first name : String} {names : List String} :
    FirstUnknown (first :: names) name ↔
      ((∀ kind : StatementKind, kind.name ≠ first) ∧ name = first) ∨
        (∃ kind : StatementKind, kind.name = first) ∧ FirstUnknown names name := by
  constructor
  · rintro ⟨_ | ⟨kind, kinds⟩, rest, same, unknown⟩
    · obtain ⟨rfl, -⟩ := List.cons.inj same
      exact .inl ⟨unknown, rfl⟩
    · obtain ⟨rfl, rfl⟩ := List.cons.inj same
      exact .inr ⟨⟨kind, rfl⟩, kinds, rest, rfl, unknown⟩
  · rintro (⟨unknown, rfl⟩ | ⟨⟨kind, rfl⟩, kinds, rest, rfl, unknown⟩)
    · exact ⟨[], names, rfl, unknown⟩
    · exact ⟨kind :: kinds, rest, rfl, unknown⟩

/-- Else the first one that is none is reported. -/
theorem mapM_kindNamed_eq_error_iff {names : List String} {error : SettingsError} :
    names.mapM kindNamed = .error error ↔ ∃ name, FirstUnknown names name ∧ error = .unknownKind name := by
  induction names with
  | nil => simp [pure, Except.pure, FirstUnknown]
  | cons first names hypothesis =>
    rw [List.mapM_cons]
    cases read : kindNamed first with
    | error reported =>
      obtain ⟨unknown, rfl⟩ := kindNamed_eq_error_iff.1 read
      simp [bind, Except.bind, firstUnknown_cons, unknown, eq_comm]
    | ok kind =>
      have known : ∃ kind : StatementKind, kind.name = first := ⟨kind, kindNamed_eq_ok_iff.1 read⟩
      have not_first : ¬∀ kind : StatementKind, kind.name ≠ first := fun unknown => unknown _ known.choose_spec
      simp only [firstUnknown_cons, known, not_first, false_and, true_and, false_or, ← hypothesis]
      cases names.mapM kindNamed <;> simp [bind, Except.bind, pure, Except.pure]

/-- A text is read as a set of kinds exactly if its names are those of the set. -/
theorem parseKinds_eq_ok_iff {text : String} {kinds : List StatementKind} :
    parseKinds text = .ok kinds ↔
      kinds = inOrder kinds.toFinset ∧ (namesIn text).toFinset = kinds.toFinset.image StatementKind.name := by
  rw [parseKinds_eq]
  cases read : (namesIn text).mapM kindNamed with
  | error reported =>
    obtain ⟨name, ⟨before, rest, names, unknown⟩, -⟩ := mapM_kindNamed_eq_error_iff.1 read
    refine ⟨nofun, fun ⟨_, same⟩ => ?_⟩
    -- the unknown name would be that of a kind of the set
    have listed : name ∈ kinds.toFinset.image StatementKind.name := by
      rw [← same, names, List.mem_toFinset]
      exact List.mem_append_right _ List.mem_cons_self
    obtain ⟨kind, -, named⟩ := Finset.mem_image.1 listed
    exact absurd named (unknown kind)
  | ok given =>
    have names : (namesIn text).toFinset = given.toFinset.image StatementKind.name := by
      rw [← mapM_kindNamed_eq_ok_iff.1 read]
      ext name
      simp
    rw [Except.map, Except.ok.injEq, kindSet_eq, names, (Finset.image_injective name_injective).eq_iff]
    constructor
    · rintro rfl
      rw [toFinset_inOrder]
      exact ⟨rfl, rfl⟩
    · rintro ⟨listed, same⟩
      rw [same, ← listed]

theorem parseKinds_eq_error_iff {text : String} {error : SettingsError} :
    parseKinds text = .error error ↔ ∃ name, FirstUnknown (namesIn text) name ∧ error = .unknownKind name := by
  rw [parseKinds_eq, ← mapM_kindNamed_eq_error_iff]
  cases (namesIn text).mapM kindNamed <;> simp [Except.map]

/-- Of two texts with a comma between them the first error is reported, or else the union is read. -/
theorem parseKinds_append (front back : String) :
    parseKinds (front ++ "," ++ back) = do
      let kinds ← parseKinds front
      let others ← parseKinds back
      return inOrder (kinds.toFinset ∪ others.toFinset) := by
  rw [parseKinds_eq, parseKinds_eq, parseKinds_eq, namesIn_append, List.mapM_append]
  cases (namesIn front).mapM kindNamed with
  | error _ => rfl
  | ok kinds =>
    cases (namesIn back).mapM kindNamed with
    | error _ => rfl
    | ok others =>
      show Except.ok (kindSet (kinds ++ others)) =
        Except.ok (inOrder ((kindSet kinds).toFinset ∪ (kindSet others).toFinset))
      rw [kindSet_eq, kindSet_eq, kindSet_eq, toFinset_inOrder, toFinset_inOrder, List.toFinset_append]

/-! ## Renderings -/

/-- The piece is the name of the kind in any letter case, between any blanks. -/
def Spells (kind : StatementKind) (piece : String) : Prop :=
  ∃ before word after, Text.AllBlank before ∧ Text.AllBlank after ∧ piece = before ++ word ++ after ∧
    Text.upper word = kind.name

/-- The text is made of pieces with commas between them: each piece is blank or the name of a kind of the set,
and each kind of the set is named. -/
def Renders (kinds : Finset StatementKind) (text : String) : Prop :=
  ∃ pieces, text = ",".intercalate pieces ∧
    (∀ piece ∈ pieces, Text.AllBlank piece ∨ ∃ kind ∈ kinds, Spells kind piece) ∧
    ∀ kind ∈ kinds, ∃ piece ∈ pieces, Spells kind piece

variable {kind : StatementKind} {kinds : Finset StatementKind} {piece text : String}

/-- A word that is a name in upper case holds neither blanks nor commas. -/
theorem solid_word {word : String} (named : Text.upper word = kind.name) :
    ∀ char ∈ word.toList, Text.isBlank char = false ∧ char ≠ ',' := by
  intro char inside
  -- what has no case stands in the name too
  have kept (fixed : Text.upperChar char = [char]) : Text.isBlank char = false ∧ char ≠ ',' :=
    solid_name kind char (named ▸ Text.mem_upper fixed inside)
  constructor
  · by_contra blank
    rw [Bool.not_eq_false] at blank
    exact Bool.false_ne_true ((kept (Text.upperChar_of_isBlank blank)).1.symm.trans blank)
  · rintro rfl
    exact (kept (by decide)).2 rfl

/-- A piece without a name is blank. -/
theorem nameIn_eq_empty_iff : nameIn piece = "" ↔ Text.AllBlank piece := by
  constructor
  · intro nothing
    obtain ⟨before, after, front, back, cut⟩ := Text.exists_padding piece
    rw [Text.eq_empty_of_upper nothing, String.append_empty] at cut
    rw [cut]
    exact front.append back
  · intro blank
    rw [nameIn, Text.trim_allBlank blank]
    rfl

theorem nameIn_eq_name_iff : nameIn piece = kind.name ↔ Spells kind piece := by
  constructor
  · intro named
    obtain ⟨before, after, front, back, cut⟩ := Text.exists_padding piece
    exact ⟨before, Text.trim piece, after, front, back, cut, named⟩
  · rintro ⟨before, word, after, front, back, rfl, named⟩
    rw [nameIn, Text.trim_padded front back fun char inside => (solid_word named char inside).1, named]

/-- A kind is spelled by its name with any of its letters small. -/
theorem spells_lowerAt (kind : StatementKind) (chosen : Nat → Bool) :
    Spells kind (Text.lowerAt chosen kind.name) :=
  ⟨"", Text.lowerAt chosen kind.name, "", nofun, nofun, by simp, Text.upper_lowerAt (capital_name kind) chosen⟩

theorem not_mem_of_allBlank (blank : Text.AllBlank piece) : ',' ∉ piece.toList :=
  fun inside => absurd (blank ',' inside) (by decide)

theorem not_mem_of_spells (spelled : Spells kind piece) : ',' ∉ piece.toList := by
  obtain ⟨before, word, after, front, back, rfl, named⟩ := spelled
  simp only [String.toList_append, List.mem_append, not_or]
  exact ⟨⟨not_mem_of_allBlank front, fun inside => (solid_word named ',' inside).2 rfl⟩,
    not_mem_of_allBlank back⟩

/-- The names in a list of pieces without commas are those in the pieces. -/
theorem namesIn_intercalate {pieces : List String} (absent : ∀ piece ∈ pieces, ',' ∉ piece.toList) :
    namesIn (",".intercalate pieces) = namesOf pieces := by
  cases pieces with
  | nil => rfl
  | cons piece pieces => rw [namesIn, Text.pieces_intercalate (List.cons_ne_nil _ _) absent]

/-- A text renders a set of kinds exactly if its names are those of the set. -/
theorem renders_iff : Renders kinds text ↔ (namesIn text).toFinset = kinds.image StatementKind.name := by
  constructor
  · rintro ⟨pieces, rfl, known, covered⟩
    have absent : ∀ piece ∈ pieces, ',' ∉ piece.toList := fun piece inside =>
      (known piece inside).elim not_mem_of_allBlank fun ⟨_, _, spelled⟩ => not_mem_of_spells spelled
    ext name
    rw [namesIn_intercalate absent, List.mem_toFinset, mem_namesOf, Finset.mem_image]
    constructor
    · rintro ⟨⟨piece, inside, rfl⟩, something⟩
      rcases known piece inside with blank | ⟨kind, wanted, spelled⟩
      · exact absurd (nameIn_eq_empty_iff.2 blank) something
      · exact ⟨kind, wanted, (nameIn_eq_name_iff.2 spelled).symm⟩
    · rintro ⟨kind, wanted, rfl⟩
      obtain ⟨piece, inside, spelled⟩ := covered kind wanted
      exact ⟨⟨piece, inside, nameIn_eq_name_iff.2 spelled⟩, by cases kind <;> decide⟩
  · intro names
    have listed (name : String) :
        ((∃ piece ∈ Text.pieces text, nameIn piece = name) ∧ name ≠ "") ↔ ∃ kind ∈ kinds, kind.name = name := by
      rw [← mem_namesOf, ← Finset.mem_image, ← names, List.mem_toFinset]
      rfl
    refine ⟨Text.pieces text, (Text.intercalate_pieces text).symm, fun piece inside => ?_,
      fun kind wanted => ?_⟩
    · by_cases nothing : nameIn piece = ""
      · exact .inl (nameIn_eq_empty_iff.1 nothing)
      · obtain ⟨kind, wanted, named⟩ := (listed (nameIn piece)).1 ⟨⟨piece, inside, rfl⟩, nothing⟩
        exact .inr ⟨kind, wanted, nameIn_eq_name_iff.1 named.symm⟩
    · obtain ⟨⟨piece, inside, named⟩, -⟩ := (listed kind.name).2 ⟨kind, wanted, rfl⟩
      exact ⟨piece, inside, nameIn_eq_name_iff.1 named⟩

/-- Reading a text that names kinds is a homomorphism to sets of kinds. Two texts with a comma between them
are refused exactly if one of them is, for the reason that the first one is refused for, or else the second
one, and are read as the union of their sets. A text is refused for the first of its names that no kind has,
and otherwise is read as the one set that has its names, so nothing but the set of its names shows. The texts
that are read as a set of kinds are those that render it, in which any letter of a name may be small. -/
theorem parseKinds_laws :
    (∀ front back : String,
      (∀ error, parseKinds (front ++ "," ++ back) = .error error ↔
        parseKinds front = .error error ∨
          (∃ kinds, parseKinds front = .ok kinds) ∧ parseKinds back = .error error) ∧
      ∀ kinds, parseKinds (front ++ "," ++ back) = .ok kinds ↔
        ∃ first second, parseKinds front = .ok first ∧ parseKinds back = .ok second ∧
          kinds = inOrder (first.toFinset ∪ second.toFinset)) ∧
    (∀ text,
      (∀ error, parseKinds text = .error error ↔
        ∃ name, FirstUnknown (namesIn text) name ∧ error = .unknownKind name) ∧
      ∀ kinds, parseKinds text = .ok kinds ↔
        kinds = inOrder kinds.toFinset ∧ (namesIn text).toFinset = kinds.toFinset.image StatementKind.name) ∧
    (∀ (text : String) (kinds : Finset StatementKind),
      parseKinds text = .ok (inOrder kinds) ↔ Renders kinds text) ∧
    ∀ (kind : StatementKind) (chosen : Nat → Bool), Spells kind (Text.lowerAt chosen kind.name) := by
  refine ⟨fun front back => ?_,
    fun text => ⟨fun error => parseKinds_eq_error_iff, fun kinds => parseKinds_eq_ok_iff⟩,
    fun text kinds => ?_, spells_lowerAt⟩
  · rw [parseKinds_append]
    cases parseKinds front <;> cases parseKinds back <;>
      simp [bind, Except.bind, pure, Except.pure, eq_comm]
  · rw [parseKinds_eq_ok_iff, toFinset_inOrder, renders_iff]
    exact and_iff_right rfl

/-- Order, repetition, letter case, blanks and empty pieces do not show, and the first unknown name does. -/
example : parseKinds "update,,\tInsert , UPDATE," = .ok [.insert, .update] ∧
    parseKinds "insert, merge,upsert" = .error (.unknownKind "MERGE") := ⟨rfl, rfl⟩

end Settings

end SerialCheck

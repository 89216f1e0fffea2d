import SerialCheck.Proofs.Synthesis.Definitions

/-!
# Balanced brackets

The brackets of a text are balanced if no beginning of it closes more than it opens and the whole closes as many
as it opens (`Text.Balanced`). The name of a table stands in a statement as it is, so a statement over columns
whose names hold no bracket is balanced exactly if that name is (`DataText.balanced_iff`). A predicate over such
columns and a definition of a table with columns of its own always are.
-/
namespace SerialCheck

namespace Text

/-- How many more brackets are opened than closed. -/
def level (chars : List Char) : Int := chars.count '(' - chars.count ')'

theorem level_append (first second : List Char) : level (first ++ second) = level first + level second := by
  simp only [level, List.count_append]
  omega

/-- The brackets of the text are balanced. -/
structure Balanced (text : String) : Prop where
  /-- No beginning closes more than it opens. -/
  opened : ∀ start, start <+: text.toList → 0 ≤ level start
  /-- All that is opened is closed. -/
  closed : level text.toList = 0

/-- The text holds no bracket. -/
def Unbracketed (text : String) : Prop := '(' ∉ text.toList ∧ ')' ∉ text.toList

instance (text : String) : Decidable (Unbracketed text) := inferInstanceAs (Decidable (_ ∧ _))

/-- A beginning of two texts one after the other ends in the first or in the second one. -/
theorem begins_append {start first second : List Char} (begins : start <+: first ++ second) :
    start <+: first ∨ ∃ rest, start = first ++ rest ∧ rest <+: second := by
  rcases List.prefix_or_prefix_of_prefix begins (List.prefix_append first second) with within | beyond
  · exact .inl within
  · obtain ⟨rest, rfl⟩ := beyond
    exact .inr ⟨rest, rfl, (List.prefix_append_right_inj first).1 begins⟩

variable {text before behind : String}

/-! ## Texts without brackets -/

theorem Unbracketed.append (first : Unbracketed before) (second : Unbracketed behind) :
    Unbracketed (before ++ behind) := by
  rw [Unbracketed, String.toList_append, List.mem_append, List.mem_append]
  exact ⟨not_or.2 ⟨first.1, second.1⟩, not_or.2 ⟨first.2, second.2⟩⟩

/-- A text without brackets is balanced. -/
theorem Unbracketed.balanced (unbracketed : Unbracketed text) : Balanced text := by
  have flat (start : List Char) (inside : start ⊆ text.toList) : level start = 0 := by
    have opening : start.count '(' = 0 := List.count_eq_zero.2 fun held => unbracketed.1 (inside held)
    have closing : start.count ')' = 0 := List.count_eq_zero.2 fun held => unbracketed.2 (inside held)
    rw [level, opening, closing]
    rfl
  refine ⟨fun start begins => ?_, flat _ fun _ held => held⟩
  rw [flat start begins.subset]

theorem balanced_empty : Balanced "" := by
  have empty : Unbracketed "" := by decide
  exact empty.balanced

/-- No digit is a bracket. -/
theorem unbracketed_nat (number : Nat) : Unbracketed (toString number) := by
  have digits : (toString number).toList = Nat.toDigits 10 number := Nat.toList_repr
  have known {char : Char} (inside : char ∈ (toString number).toList) : char.isDigit = true := by
    rw [digits] at inside
    exact Nat.isDigit_of_mem_toDigits (by decide) (by decide) inside
  constructor
  · intro held
    exact absurd (known held) (by decide)
  · intro held
    exact absurd (known held) (by decide)

theorem unbracketed_int (number : Int) : Unbracketed (toString number) := by
  cases number with
  | ofNat number => exact unbracketed_nat number
  | negSucc number =>
    have sign : Unbracketed "-" := by decide
    exact sign.append (unbracketed_nat (number + 1))

/-! ## Texts one after the other -/

/-- In front of a balanced text exactly the balanced texts are balanced. -/
theorem balanced_append_iff (balanced : Balanced behind) : Balanced (text ++ behind) ↔ Balanced text := by
  have whole : (text ++ behind).toList = text.toList ++ behind.toList := String.toList_append
  constructor
  · intro given
    have closed := given.closed
    rw [whole, level_append, balanced.closed, Int.add_zero] at closed
    refine ⟨fun start begins => ?_, closed⟩
    exact given.opened start (whole ▸ begins.trans (List.prefix_append _ _))
  · intro given
    constructor
    · intro start begins
      rw [whole] at begins
      rcases begins_append begins with within | ⟨rest, rfl, beyond⟩
      · exact given.opened start within
      · rw [level_append, given.closed, Int.zero_add]
        exact balanced.opened rest beyond
    · rw [whole, level_append, given.closed, balanced.closed, Int.zero_add]

/-- So they are behind a balanced text. -/
theorem balanced_behind_iff (balanced : Balanced before) : Balanced (before ++ text) ↔ Balanced text := by
  refine ⟨fun given => ?_, fun given => (balanced_append_iff given).2 balanced⟩
  have whole : (before ++ text).toList = before.toList ++ text.toList := String.toList_append
  constructor
  · intro start begins
    have within := given.opened (before.toList ++ start)
      (whole ▸ (List.prefix_append_right_inj _).2 begins)
    rwa [level_append, balanced.closed, Int.zero_add] at within
  · have closed := given.closed
    rwa [whole, level_append, balanced.closed, Int.zero_add] at closed

theorem Balanced.append (first : Balanced before) (second : Balanced behind) : Balanced (before ++ behind) :=
  (balanced_append_iff second).2 first

/-- A balanced text in brackets is balanced. -/
theorem Balanced.enclosed (balanced : Balanced text) : Balanced ("(" ++ text ++ ")") := by
  have whole : ("(" ++ text ++ ")").toList = '(' :: (text.toList ++ [')']) := by
    rw [String.toList_append, String.toList_append]
    rfl
  have opening (chars : List Char) : level ('(' :: chars) = 1 + level chars := level_append ['('] chars
  have closing : level [')'] = -1 := by decide
  constructor
  · intro start begins
    rw [whole] at begins
    rcases List.prefix_cons_iff.1 begins with rfl | ⟨rest, rfl, within⟩
    · exact Int.le_refl 0
    · rw [opening]
      rcases begins_append within with inside | ⟨last, rfl, ended⟩
      · have := balanced.opened rest inside
        omega
      · rw [level_append, balanced.closed]
        rcases List.prefix_cons_iff.1 ended with rfl | ⟨none, rfl, nothing⟩
        · decide
        · rw [List.prefix_nil.1 nothing, closing]
          decide
  · rw [whole, opening, level_append, balanced.closed, closing]
    decide

/-- Balanced texts with commas between them are balanced. -/
theorem balanced_commaList {texts : List String} (each : ∀ text ∈ texts, Balanced text) :
    Balanced (", ".intercalate texts) := by
  have comma : Unbracketed ", " := by decide
  induction texts with
  | nil => exact balanced_empty
  | cons text texts hypothesis =>
    obtain ⟨first, others⟩ := List.forall_mem_cons.1 each
    cases texts with
    | nil =>
      rw [String.intercalate_singleton]
      exact first
    | cons next texts =>
      rw [String.intercalate_cons_cons]
      exact (first.append comma.balanced).append (hypothesis others)

end Text

open Text

/-! ## Expressions -/

/-- No letter of a short word is a bracket. -/
theorem IsShortWord.unbracketed {word : String} (short : IsShortWord word) : Unbracketed word := by
  constructor
  · intro held
    exact absurd (short.2 _ held).1 (by decide)
  · intro held
    exact absurd (short.2 _ held).1 (by decide)

theorem ConstantText.unbracketed {dataType : DataType} {text : String} (constant : ConstantText dataType text) :
    Unbracketed text := by
  have point : Unbracketed "." := by decide
  have quote : Unbracketed "'" := by decide
  cases constant with
  | null => decide
  | int drawn => exact unbracketed_int _
  | isTrue => decide
  | isFalse => decide
  | numeric drawn positive bounded => exact ((unbracketed_int _).append point).append (unbracketed_int _)
  | text short => exact (quote.append short.unbracketed).append quote

theorem unbracketed_operator : ∀ operator ∈ comparisonOperators, Unbracketed operator := by decide

variable {columns : List Column}

/-- A predicate over columns whose names hold no bracket is balanced. -/
theorem PredicateText.balanced {depth tests : Nat} {text : String}
    (predicate : PredicateText columns depth tests text)
    (plain : ∀ column ∈ columns, Unbracketed column.name) : Balanced text := by
  have space : Unbracketed " " := by decide
  induction predicate with
  | @and depth left right first second before behind one other =>
    have word : Unbracketed " AND " := by decide
    have inner : Balanced (first ++ " AND " ++ second) := (one.append word.balanced).append other
    simpa only [String.append_assoc] using inner.enclosed
  | @or depth left right first second before behind one other =>
    have word : Unbracketed " OR " := by decide
    have inner : Balanced (first ++ " OR " ++ second) := (one.append word.balanced).append other
    simpa only [String.append_assoc] using inner.enclosed
  | @isNull depth column known =>
    have word : Unbracketed " IS NULL" := by decide
    have ends : " IS NULL)" = " IS NULL" ++ ")" := rfl
    rw [ends]
    simpa only [String.append_assoc] using ((plain column known).append word).balanced.enclosed
  | @isNotNull depth column known =>
    have word : Unbracketed " IS NOT NULL" := by decide
    have ends : " IS NOT NULL)" = " IS NOT NULL" ++ ")" := rfl
    rw [ends]
    simpa only [String.append_assoc] using ((plain column known).append word).balanced.enclosed
  | @compare depth column operator constant known listed typed =>
    have sides := (((plain column known).append space).append (unbracketed_operator operator listed)).append space
    simpa only [String.append_assoc] using (sides.append typed.unbracketed).balanced.enclosed

/-! ## Data statements -/

theorem ConditionText.balanced {condition : String} (met : ConditionText columns condition)
    (plain : ∀ column ∈ columns, Unbracketed column.name) : Balanced condition := by
  cases met with
  | none => exact balanced_empty
  | of given =>
    have word : Unbracketed " WHERE " := by decide
    exact word.balanced.append (given.balanced plain)

/-- The names of columns of a table are balanced together. -/
theorem balanced_names {chosen : List Column} (picked : chosen ⊆ columns)
    (plain : ∀ column ∈ columns, Unbracketed column.name) :
    Balanced (", ".intercalate (chosen.map Column.name)) := by
  refine balanced_commaList fun name listed => ?_
  obtain ⟨column, held, rfl⟩ := List.mem_map.1 listed
  exact (plain column (picked held)).balanced

theorem FetchText.balanced {fetch : String} (fetched : FetchText columns fetch)
    (plain : ∀ column ∈ columns, Unbracketed column.name) : Balanced fetch := by
  cases fetched with
  | all =>
    have star : Unbracketed "*" := by decide
    exact star.balanced
  | some nonempty picked => exact balanced_names picked.subset plain

/-- The constants of a row are balanced together. -/
theorem ConstantsText.balanced {constants : List String} (typed : ConstantsText columns constants) :
    ∀ constant ∈ constants, Balanced constant := by
  induction typed with
  | nil => exact fun _ held => absurd held List.not_mem_nil
  | cons first others hypothesis => exact List.forall_mem_cons.2 ⟨first.unbracketed.balanced, hypothesis⟩

/-- So are assignments of constants to columns. -/
theorem ConstantsText.balanced_assignments {constants : List String} (typed : ConstantsText columns constants)
    (plain : ∀ column ∈ columns, Unbracketed column.name) :
    ∀ assignment ∈ List.zipWith (fun column constant => column.name ++ " = " ++ constant) columns constants,
      Balanced assignment := by
  have equals : Unbracketed " = " := by decide
  induction typed with
  | nil => exact fun _ held => absurd held List.not_mem_nil
  | cons first others hypothesis =>
    obtain ⟨name, names⟩ := List.forall_mem_cons.1 plain
    rw [List.zipWith_cons_cons]
    exact List.forall_mem_cons.2 ⟨((name.append equals).append first.unbracketed).balanced, hypothesis names⟩

/-- A data statement over columns whose names hold no bracket is balanced exactly if the name of its table
is. -/
theorem DataText.balanced_iff {table : Table} {kind : StatementKind} {text : String}
    (statement : DataText table kind text) (plain : ∀ column ∈ table.columns, Unbracketed column.name) :
    Balanced text ↔ Balanced table.name := by
  induction statement with
  | @insert columns rows nonempty picked few typed =>
    have opening : Unbracketed "INSERT INTO " := by decide
    have word : Unbracketed " VALUES " := by decide
    have names : Balanced ("(" ++ ", ".intercalate (columns.map Column.name) ++ ")") :=
      (balanced_names picked.subset plain).enclosed
    have values : Balanced (", ".intercalate (rows.map fun row => "(" ++ ", ".intercalate row ++ ")")) := by
      refine balanced_commaList fun text listed => ?_
      obtain ⟨row, held, rfl⟩ := List.mem_map.1 listed
      exact (balanced_commaList (typed row held).balanced).enclosed
    have leading : Balanced ("INSERT INTO " ++ table.name) ↔ Balanced table.name :=
      balanced_behind_iff opening.balanced
    have around := (balanced_append_iff ((names.append word.balanced).append values)).trans leading
    have ends : ") VALUES " = ")" ++ " VALUES " := rfl
    rw [ends]
    simpa only [String.append_assoc] using around
  | @select fetch condition fetched met =>
    have opening : Unbracketed "SELECT " := by decide
    have word : Unbracketed " FROM " := by decide
    have ahead := (opening.balanced.append (fetched.balanced plain)).append word.balanced
    exact (balanced_append_iff (met.balanced plain)).trans (balanced_behind_iff ahead)
  | selectForUpdate reads hypothesis =>
    have word : Unbracketed " FOR UPDATE" := by decide
    exact (balanced_append_iff word.balanced).trans hypothesis
  | delete met =>
    have opening : Unbracketed "DELETE FROM " := by decide
    exact (balanced_append_iff (met.balanced plain)).trans (balanced_behind_iff opening.balanced)
  | @update columns constants condition nonempty picked typed met =>
    have opening : Unbracketed "UPDATE " := by decide
    have word : Unbracketed " SET " := by decide
    have assignments := balanced_commaList
      (typed.balanced_assignments fun column held => plain column (picked.subset held))
    have leading : Balanced ("UPDATE " ++ table.name) ↔ Balanced table.name :=
      balanced_behind_iff opening.balanced
    have behind := (word.balanced.append assignments).append (met.balanced plain)
    have around := (balanced_append_iff behind).trans leading
    simpa only [String.append_assoc] using around

/-! ## Definitions -/

/-- The names of tables and columns that are generated hold no bracket. -/
theorem unbracketed_columnName (number : Nat) : Unbracketed (TableDefinition.columnName number) := by
  have letter : Unbracketed "c" := by decide
  exact letter.append (unbracketed_nat number)

theorem unbracketed_tableName (number : Nat) : Unbracketed (Schema.tableName number) := by
  have letter : Unbracketed "t" := by decide
  exact letter.append (unbracketed_nat number)

theorem AreNumbered.unbracketed (numbered : AreNumbered columns) :
    ∀ column ∈ columns, Unbracketed column.name := by
  intro column member
  have listed : column.name ∈ columns.map Column.name := List.mem_map_of_mem member
  rw [numbered] at listed
  obtain ⟨number, _, same⟩ := List.mem_map.1 listed
  rw [← same]
  exact unbracketed_columnName number

theorem unbracketed_dataType (dataType : DataType) : Unbracketed dataType.name := by
  cases dataType <;> decide

/-- Words without brackets that are there or not are balanced. -/
theorem balanced_optional (given : Bool) {words : String} (unbracketed : Unbracketed words) :
    Balanced (if given then words else "") := by
  cases given with
  | false => exact balanced_empty
  | true => exact unbracketed.balanced

theorem CheckText.balanced {column : Column} {check : String} (checked : CheckText column check)
    (plain : Unbracketed column.name) : Balanced check := by
  cases checked with
  | none => exact balanced_empty
  | of predicate =>
    have word : Unbracketed " CHECK " := by decide
    have names : ∀ other ∈ [column], Unbracketed other.name := by
      intro other listed
      rw [List.mem_singleton.1 listed]
      exact plain
    exact word.balanced.append (predicate.balanced names)

theorem DefaultText.balanced {dataType : DataType} {defaulted : Bool} {default : String}
    (given : DefaultText dataType defaulted default) : Balanced default := by
  cases given with
  | none => exact balanced_empty
  | of constant =>
    have word : Unbracketed " DEFAULT " := by decide
    exact (word.append constant.unbracketed).balanced

/-- The definition of a column is balanced if its name holds no bracket. -/
theorem ClauseText.balanced {column : Column} {defaulted keyed : Bool} {text : String}
    (clause : ClauseText column defaulted keyed text) (plain : Unbracketed column.name) : Balanced text := by
  have space : Unbracketed " " := by decide
  cases clause with
  | of notNull unique _ checked given =>
    have name := ((plain.append space).append (unbracketed_dataType column.dataType)).balanced
    have present : Balanced (if notNull then " NOT NULL" else "") := balanced_optional notNull (by decide)
    have single : Balanced (if unique then " UNIQUE" else "") := balanced_optional unique (by decide)
    have primary : Balanced (if keyed then " PRIMARY KEY" else "") := balanced_optional keyed (by decide)
    have front := ((name.append (checked.balanced plain)).append present).append given.balanced
    exact (front.append single).append primary

/-- So are the definitions of several columns. -/
theorem ClausesText.balanced {defaults keys : Nat} {clauses : List String}
    (given : ClausesText columns defaults keys clauses) (plain : ∀ column ∈ columns, Unbracketed column.name) :
    ∀ clause ∈ clauses, Balanced clause := by
  induction given with
  | nil => exact fun _ held => absurd held List.not_mem_nil
  | cons first others hypothesis =>
    obtain ⟨name, names⟩ := List.forall_mem_cons.1 plain
    exact List.forall_mem_cons.2 ⟨first.balanced name, hypothesis names⟩

/-- A definition of a table with columns of its own is balanced if the name of the table is. -/
theorem DefinitionText.balanced {name text : String} {defaults : Nat}
    (definition : DefinitionText name defaults text) (named : Balanced name) : Balanced text := by
  have opening : Unbracketed "CREATE TABLE " := by decide
  have around {inner : String} (balanced : Balanced inner) :
      Balanced ("CREATE TABLE " ++ name ++ "(" ++ inner ++ ")") := by
    simpa only [String.append_assoc] using (opening.balanced.append named).append balanced.enclosed
  cases definition with
  | plain few numbered given single => exact around (balanced_commaList (given.balanced numbered.unbracketed))
  | @keyed columns key _ clauses few numbered given nonempty different known =>
    refine around (balanced_commaList fun text listed => ?_)
    rcases List.mem_append.1 listed with clause | constraint
    · exact given.balanced numbered.unbracketed text clause
    · have word : Unbracketed "PRIMARY KEY" := by decide
      have names := (balanced_names known numbered.unbracketed).enclosed
      have split : "PRIMARY KEY(" = "PRIMARY KEY" ++ "(" := rfl
      rw [List.mem_singleton.1 constraint, split]
      simpa only [String.append_assoc] using word.balanced.append names

/-- So is a copy of a table if both names are. -/
theorem balanced_copy {name model : String} (named : Balanced name) (other : Balanced model) :
    Balanced ("CREATE TABLE " ++ name ++ "(LIKE " ++ model ++ " INCLUDING ALL)") := by
  have opening : Unbracketed "CREATE TABLE " := by decide
  have like : Unbracketed "LIKE " := by decide
  have all : Unbracketed " INCLUDING ALL" := by decide
  have inner := ((like.balanced.append other).append all.balanced).enclosed
  have begins : "(LIKE " = "(" ++ "LIKE " := rfl
  have ends : " INCLUDING ALL)" = " INCLUDING ALL" ++ ")" := rfl
  rw [begins, ends]
  simpa only [String.append_assoc] using (opening.balanced.append named).append inner

/-! ## Whatever is drawn -/

/-- Whatever was drawn before and is drawn now, a predicate over columns belongs to the grammar, with connectives
nested at most twice and at most four tests, and is balanced if their names hold no bracket; a data statement
over such columns is balanced exactly if the name of its table is; and a definition of a table with columns of
its own always is. -/
theorem drawn_balanced {randomness : Randomness} (evolved : randomness.Evolved) :
    (∀ columns : List Column, columns ≠ [] → ∃ predicate after,
      (Predicate.draw columns Predicate.maxDepth).run randomness = (.ok predicate, after) ∧
      (∃ tests ≤ 4, PredicateText columns 2 tests predicate.render) ∧
      ((∀ column ∈ columns, Unbracketed column.name) → Balanced predicate.render) ∧ after.Evolved) ∧
    (∀ (schema : Schema) (level : Value) (kind : StatementKind), schema.Readable → schema.tables ≠ [] →
      (∀ table ∈ schema.tables, table.columns ≠ []) →
      (∀ table ∈ schema.tables, ∀ column ∈ table.columns, Unbracketed column.name) → kind.isControl = false →
      ∃ query after, (drawStatement schema level kind).run randomness = (.ok query, after) ∧
        (∃ table ∈ schema.tables, ∃ text, query.text = .text text ∧ DataText table kind text ∧
          (Balanced text ↔ Balanced table.name)) ∧ after.Evolved) ∧
    ∀ schema : Schema, schema.Named → ∃ query generator after,
      (({} : TableGenerator).draw schema).run randomness = (.ok (query, generator), after) ∧
      (∃ text, query.text = .text text ∧
        ((∃ defaults, DefinitionText schema.freeName defaults text ∧ Balanced text) ∨
          ∃ model ∈ schema.tables,
            text = "CREATE TABLE " ++ schema.freeName ++ "(LIKE " ++ model.name ++ " INCLUDING ALL)" ∧
              (Balanced model.name → Balanced text))) ∧ after.Evolved := by
  refine ⟨fun columns some_there => ?_, fun schema level kind readable some_there filled plain data => ?_,
    fun schema named => ?_⟩
  · obtain ⟨predicate, after, ended, ⟨tests, derived⟩, history⟩ :=
      Predicate.yields_draw some_there Predicate.maxDepth randomness evolved
    exact ⟨predicate, after, ended, ⟨tests, derived.tests_le, derived⟩, derived.balanced, history⟩
  · obtain ⟨query, after, ended, ⟨table, member, text, given, derived⟩, history⟩ :=
      yields_drawStatement readable some_there filled level data randomness evolved
    have balanced := derived.balanced_iff (plain table member)
    exact ⟨query, after, ended, ⟨table, member, text, given, derived, balanced⟩, history⟩
  · have free : Balanced schema.freeName := (unbracketed_tableName _).balanced
    obtain ⟨⟨query, generator⟩, after, ended, kinds, history⟩ :=
      TableGenerator.yields_draw {} named randomness evolved
    refine ⟨query, generator, after, ended, ?_, history⟩
    rcases kinds with ⟨⟨model, member, copied⟩, _⟩ | ⟨text, defaults, given, derived, _⟩
    · exact ⟨_, copied, .inr ⟨model, member, rfl, balanced_copy free⟩⟩
    · exact ⟨text, given, .inl ⟨defaults, derived, derived.balanced free⟩⟩

open Sample in
/-- Over the columns of two tables a predicate, a statement and a definition are drawn that are balanced. -/
theorem drawn_balanced_catalog :
    (∃ predicate after, (Predicate.draw [{ name := "c0", dataType := .int }] 2).run recalling =
        (.ok predicate, after) ∧ Balanced predicate.render) ∧
      (∃ query after, (drawStatement catalog .null .update).run recalling = (.ok query, after) ∧
        ∃ text, query.text = .text text ∧ Balanced text) ∧
      ∃ query generator after, (({} : TableGenerator).draw catalog).run recalling =
        (.ok (query, generator), after) ∧ ∃ text, query.text = .text text ∧ Balanced text := by
  obtain ⟨predicates, statements, definitions⟩ := drawn_balanced recalling_evolved
  have names : ∀ table ∈ catalog.tables, Balanced table.name := by
    have plain : ∀ table ∈ catalog.tables, Unbracketed table.name := by decide
    exact fun table member => (plain table member).balanced
  refine ⟨?_, ?_, ?_⟩
  · obtain ⟨predicate, after, ended, _, balanced, _⟩ :=
      predicates [{ name := "c0", dataType := .int }] (List.cons_ne_nil _ _)
    exact ⟨predicate, after, ended, balanced (by decide)⟩
  · obtain ⟨query, after, ended, ⟨table, member, text, given, _, balanced⟩, _⟩ := statements catalog .null .update
      catalog_readable (List.cons_ne_nil _ _) catalog_filled (by decide) rfl
    exact ⟨query, after, ended, text, given, balanced.2 (names table member)⟩
  · obtain ⟨query, generator, after, ended, ⟨text, given, defined | copied⟩, _⟩ :=
      definitions catalog catalog_readable.tables
    · obtain ⟨_, _, balanced⟩ := defined
      exact ⟨query, generator, after, ended, text, given, balanced⟩
    · obtain ⟨model, member, _, balanced⟩ := copied
      exact ⟨query, generator, after, ended, text, given, balanced (names model member)⟩

namespace Sample

/-- A schema of a table whose name opens a bracket, with a column whose name holds none. -/
def lopsidedName : Schema where
  tables := [{ name := "t(", columns := [{ name := "c0", dataType := .int }] }]

/-- Randomness that gives the least choice at first. -/
def leastChoices : Randomness where
  seed := .integer 0
  source := ⟨List.replicate 64 0, ⟨#[], 0⟩⟩

/-- A predicate with connectives that are nested twice. -/
def nestedTests : String := "(((c0 IS NULL) AND (c0 IS NULL)) AND ((c0 IS NULL) AND (c0 IS NULL)))"

end Sample

open Sample in
/-- The name of a table stands in a statement as it is: one that opens a bracket leaves the statement unbalanced,
though the names of the columns hold no bracket and its predicate is balanced. -/
theorem unbalanced_name_unbalances :
    (∀ table ∈ lopsidedName.tables, ∀ column ∈ table.columns, Unbracketed column.name) ∧
      ((drawStatement lopsidedName .null .delete).run leastChoices).1.toOption.map Query.text =
        some (.text ("DELETE FROM t( WHERE " ++ nestedTests)) ∧
      PredicateText [{ name := "c0", dataType := .int }] 2 4 nestedTests ∧ Balanced nestedTests ∧
      ¬ Balanced ("DELETE FROM t( WHERE " ++ nestedTests) := by
  have test : PredicateText [{ name := "c0", dataType := .int }] 0 1 "(c0 IS NULL)" :=
    .isNull List.mem_cons_self
  have derived : PredicateText [{ name := "c0", dataType := .int }] 2 4 nestedTests :=
    .and (.and test test) (.and test test)
  refine ⟨by decide, by decide +kernel, derived, derived.balanced (by decide), fun balanced => ?_⟩
  exact absurd balanced.closed (by decide)

end SerialCheck

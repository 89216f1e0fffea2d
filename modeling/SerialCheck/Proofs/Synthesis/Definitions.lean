import SerialCheck.Proofs.Populated.Names
import SerialCheck.Proofs.Suspicions
import SerialCheck.Proofs.Synthesis.Statements

/-!
# The grammar of table definitions

`DefinitionText` lists the texts that create a table with columns of its own. The number of default values and
the number of primary keys among the columns are counted along the clauses, so that there is at most one primary
key over all columns and the table constraint. Whatever is drawn is such a definition, or a copy of a table of
the schema, for a name that no table has, and it expects the errors of default values exactly if it has one
(`TableGenerator.draw_wellFormed`).
-/
namespace SerialCheck

/-- The text is a constraint on the values of the one column, or there is none. -/
inductive CheckText (column : Column) : String → Prop
  /-- There is none. -/
  | none : CheckText column ""
  /-- It is a predicate about the column. -/
  | of {tests : Nat} {predicate : String} (given : PredicateText [column] 2 tests predicate) :
      CheckText column (" CHECK " ++ predicate)

/-- The text gives a default value of the type, or there is none. -/
inductive DefaultText (dataType : DataType) : Bool → String → Prop
  /-- There is none. -/
  | none : DefaultText dataType false ""
  /-- It is a constant of the type. -/
  | of {constant : String} (typed : ConstantText dataType constant) :
      DefaultText dataType true (" DEFAULT " ++ constant)

/-- The text defines the column, with a default value or not and as the primary key or not. -/
inductive ClauseText (column : Column) : Bool → Bool → String → Prop
  /-- The name and the type stand in front of the constraints. -/
  | of {check default : String} {defaulted : Bool} (notNull unique keyed : Bool)
      (checked : CheckText column check) (given : DefaultText column.dataType defaulted default) :
      ClauseText column defaulted keyed (column.name ++ " " ++ column.dataType.name ++ check ++
        (if notNull then " NOT NULL" else "") ++ default ++ (if unique then " UNIQUE" else "") ++
          if keyed then " PRIMARY KEY" else "")

/-- The texts define the columns in order, so many of them with a default value and so many as the primary
key. -/
inductive ClausesText : List Column → Nat → Nat → List String → Prop
  /-- There is no column. -/
  | nil : ClausesText [] 0 0 []
  /-- A column stands in front of others. -/
  | cons {column : Column} {columns : List Column} {defaulted keyed : Bool} {defaults keys : Nat}
      {clause : String} {clauses : List String} (first : ClauseText column defaulted keyed clause)
      (others : ClausesText columns defaults keys clauses) :
      ClausesText (column :: columns) (defaulted.toNat + defaults) (keyed.toNat + keys) (clause :: clauses)

/-- The columns are named by their positions. -/
def AreNumbered (columns : List Column) : Prop :=
  columns.map Column.name = (List.range columns.length).map TableDefinition.columnName

/-- The text creates a table of the name with one to three columns, so many of them with a default value. At
most one column is the primary key, and none is if some of the columns are the primary key together. -/
inductive DefinitionText (name : String) : Nat → String → Prop
  /-- A primary key is one of the columns. -/
  | plain {columns : List Column} {defaults keys : Nat} {clauses : List String}
      (few : 1 ≤ columns.length ∧ columns.length ≤ 3) (numbered : AreNumbered columns)
      (given : ClausesText columns defaults keys clauses) (single : keys ≤ 1) :
      DefinitionText name defaults ("CREATE TABLE " ++ name ++ "(" ++ ", ".intercalate clauses ++ ")")
  /-- A table constraint names different columns as the primary key. -/
  | keyed {columns key : List Column} {defaults : Nat} {clauses : List String}
      (few : 1 ≤ columns.length ∧ columns.length ≤ 3) (numbered : AreNumbered columns)
      (given : ClausesText columns defaults 0 clauses) (nonempty : key ≠ [])
      (different : (key.map Column.name).Nodup) (known : key ⊆ columns) :
      DefinitionText name defaults ("CREATE TABLE " ++ name ++ "(" ++ ", ".intercalate
        (clauses ++ ["PRIMARY KEY(" ++ ", ".intercalate (key.map Column.name) ++ ")"]) ++ ")")

namespace TableDefinition

open Attempt

/-! ## Columns -/

/-- Columns of different positions have different names. -/
theorem columnName_injective : Function.Injective columnName := by
  intro first second same
  apply Schema.tableName_injective
  have texts : ("c" ++ toString first).toList = ("c" ++ toString second).toList := congrArg String.toList same
  rw [String.toList_append, String.toList_append] at texts
  have digits : toString first = toString second := String.toList_inj.1 (List.append_cancel_left texts)
  exact congrArg ("t" ++ ·) digits

/-- The columns that are drawn are numbered from the given number on. -/
theorem yields_drawColumns (count number : Nat) : (drawColumns count number).Yields fun columns =>
    columns.map Column.name = (List.range' number count).map columnName := by
  induction count generalizing number with
  | zero => exact yields_pure rfl
  | succ count hypothesis =>
    refine (yields_member (List.cons_ne_nil _ _)).bind fun dataType _ => ?_
    refine (hypothesis (number + 1)).bind fun columns numbered => yields_pure ?_
    rw [List.map_cons, numbered]
    rfl

/-! ## Clauses -/

theorem yields_drawCheck (column : Column) : (drawCheck column).Yields fun check =>
    CheckText column (check.elim "" (" CHECK " ++ ·.render)) := by
  refine (yields_draw (Draw.yields_chance _)).bind fun checked _ => yields_ite ?_ (yields_pure .none)
  refine (Predicate.yields_draw (List.cons_ne_nil _ _) _).bind fun predicate ⟨tests, derived⟩ => ?_
  exact yields_pure (.of derived)

theorem yields_drawDefault (dataType : DataType) : (drawDefault dataType).Yields fun default =>
    DefaultText dataType default.isSome (default.elim "" (" DEFAULT " ++ ·.render)) := by
  refine (Draw.yields_chance _).bind fun given _ => Draw.yields_ite ?_ (Draw.yields_pure .none)
  exact (Constant.yields_draw dataType).bind fun constant typed => Draw.yields_pure (.of typed)

/-- A choice that never falls on what is not allowed falls on what is allowed only. -/
theorem yields_allowed (draw : Bool → Draw Bool) (never : draw false = pure false)
    (sometimes : (draw true).Yields fun _ => True) (allowed : Bool) :
    (draw allowed).Yields fun drawn => drawn = true → allowed = true := by
  cases allowed with
  | false =>
    rw [never]
    exact Draw.yields_pure fun drawn => drawn
  | true => exact sometimes.mono fun _ _ _ => rfl

/-- A column with constraints is the primary key only where this is allowed. -/
theorem yields_drawClause (keyAllowed : Bool) (column : Column) :
    (drawClause keyAllowed column).Yields fun clause =>
      (clause.primaryKey = true → keyAllowed = true) ∧
        ClauseText column clause.default.isSome clause.primaryKey clause.render := by
  refine (yields_drawCheck column).bind fun check checked => ?_
  refine (yields_draw (Draw.yields_chance _)).bind fun notNull _ => ?_
  refine (yields_draw (yields_drawDefault column.dataType)).bind fun default given => ?_
  refine (yields_draw (Draw.yields_chance _)).bind fun unique _ => ?_
  have only := yields_allowed drawAllowed rfl (Draw.yields_chance _) keyAllowed
  refine (yields_draw only).bind fun keyed allowed => ?_
  exact yields_pure ⟨allowed, .of notNull unique keyed checked given⟩

/-- What is still allowed behind a column is not more than what it leaves. -/
theorem toNat_add_le {keyAllowed keyed : Bool} {keys : Nat} (allowed : keyed = true → keyAllowed = true)
    (left : keys ≤ (keyAllowed && !keyed).toNat) : keyed.toNat + keys ≤ keyAllowed.toNat := by
  cases keyed with
  | false => simpa using left
  | true =>
    have none : keys = 0 := by simpa using left
    rw [allowed rfl, none]
    exact Nat.le_refl _

/-- The primary keys are counted off: a column that is one leaves none for those behind it. -/
theorem yields_drawClauses (keyAllowed : Bool) (columns : List Column) :
    (drawClauses keyAllowed columns).Yields fun clauses => ∃ defaults keys, keys ≤ keyAllowed.toNat ∧
      (hasDefault clauses = true ↔ 0 < defaults) ∧
        ClausesText columns defaults keys (clauses.map ColumnClause.render) := by
  induction columns generalizing keyAllowed with
  | nil => exact yields_pure ⟨0, 0, Nat.zero_le _, by decide, .nil⟩
  | cons column columns hypothesis =>
    refine (yields_drawClause keyAllowed column).bind fun clause ⟨allowed, first⟩ => ?_
    refine (hypothesis _).bind fun clauses ⟨defaults, keys, left, counted, others⟩ => yields_pure ?_
    refine ⟨_, _, toNat_add_le allowed left, ?_, .cons first others⟩
    have either : hasDefault (clause :: clauses) = (clause.default.isSome || hasDefault clauses) := rfl
    rw [either, Bool.or_eq_true, counted]
    cases clause.default.isSome with
    | false => simp
    | true =>
      rw [Bool.toNat_true]
      exact iff_of_true (.inl rfl) (by omega)

/-! ## The table constraint -/

/-- Different columns are the primary key together, if there is to be one. -/
theorem yields_drawKey {columns : List Column} (some_there : columns ≠ []) (apart : Bool) :
    (drawKey columns apart).Yields fun key => (apart = false ∧ key = none) ∨
      ∃ chosen : List Column, apart = true ∧ key = some (chosen.map Column.name) ∧ chosen ≠ [] ∧
        chosen.Subperm columns := by
  cases apart with
  | false => exact yields_pure (.inl ⟨rfl, rfl⟩)
  | true =>
    refine (yields_subset some_there).bind fun chosen ⟨nonempty, picked⟩ => yields_pure ?_
    exact .inr ⟨chosen, rfl, rfl, nonempty, picked⟩

/-- Numbered columns have different names. -/
theorem nodup_names {columns : List Column} (numbered : AreNumbered columns) :
    (columns.map Column.name).Nodup := by
  rw [numbered]
  exact List.nodup_range.map columnName_injective

/-- So have some of them from different positions. -/
theorem nodup_of_subperm {columns chosen : List Column} (numbered : AreNumbered columns)
    (picked : chosen.Subperm columns) : (chosen.map Column.name).Nodup := by
  obtain ⟨between, same, part⟩ := picked
  have different : (between.map Column.name).Nodup := (nodup_names numbered).sublist (part.map Column.name)
  exact (same.map Column.name).nodup_iff.1 different

end TableDefinition

namespace TableGenerator

open Attempt TableDefinition

variable (generator : TableGenerator)

/-- The query creates a table of the name like one of the schema and expects what any definition does. -/
def Copies (schema : Schema) (name : String) (query : Query) : Prop :=
  (∃ model ∈ schema.tables,
    query.text = .text ("CREATE TABLE " ++ name ++ "(LIKE " ++ model.name ++ " INCLUDING ALL)")) ∧
  query.expected = generator.expected.withPatterns []

/-- The query creates a table of the name with columns of its own and expects the errors of default values if
it has one. -/
def Defines (name : String) (query : Query) : Prop :=
  ∃ text defaults, query.text = .text text ∧ DefinitionText name defaults text ∧
    query.expected = generator.expected.withPatterns (if 0 < defaults then defaultErrors else [])

theorem yields_drawCopy {schema : Schema} (named : schema.Named) (some_there : schema.tables ≠ [])
    (name : String) :
    (generator.drawCopy schema name).Yields fun result => generator.Copies schema name result.1 := by
  refine (Schema.yields_randomTable named some_there).bind fun model member => yields_pure ?_
  exact ⟨⟨model, member, rfl⟩, rfl⟩

theorem yields_drawNew (name : String) :
    (generator.drawNew name).Yields fun result => generator.Defines name result.1 := by
  refine (yields_draw (Draw.yields_oneOf 1 [2, 3])).bind fun count listed => ?_
  refine (yields_draw (Draw.yields_chance _)).bind fun keyAllowed _ => ?_
  have only := yields_allowed drawChoice rfl (Draw.yields_chance _) keyAllowed
  refine (yields_draw only).bind fun keyApart _ => ?_
  refine (yields_drawColumns count 0).bind fun columns names => ?_
  have many : columns.length = count := by simpa using congrArg List.length names
  have few : 1 ≤ columns.length ∧ columns.length ≤ 3 := by
    simp only [List.mem_cons, List.not_mem_nil, or_false] at listed
    omega
  have numbered : AreNumbered columns := by rw [AreNumbered, names, many, List.range_eq_range']
  have some_there : columns ≠ [] := List.length_pos_iff.1 few.1
  refine (yields_drawClauses _ columns).bind fun clauses ⟨defaults, keys, left, counted, given⟩ => ?_
  refine (yields_drawKey some_there keyApart).bind fun key kinds => yields_pure ?_
  have errors : (if hasDefault clauses then defaultErrors else []) =
      if 0 < defaults then defaultErrors else [] := by simp only [counted]
  refine ⟨_, defaults, rfl, ?_, congrArg generator.expected.withPatterns errors⟩
  rcases kinds with ⟨rfl, rfl⟩ | ⟨chosen, rfl, rfl, nonempty, picked⟩
  · have single : keys ≤ 1 := left.trans (Bool.toNat_le _)
    have text : DefinitionText name defaults _ := .plain few numbered given single
    rwa [← List.append_nil (clauses.map _)] at text
  · have none : keys = 0 := by simpa using left
    subst none
    exact .keyed few numbered given nonempty (nodup_of_subperm numbered picked) picked.subset

/-- A definition that is drawn is a copy of a table of the schema or has columns of its own. -/
theorem yields_draw {schema : Schema} (named : schema.Named) :
    (generator.draw schema).Yields fun result =>
      generator.Copies schema schema.freeName result.1 ∨ generator.Defines schema.freeName result.1 := by
  have only := yields_allowed drawChoice rfl (Draw.yields_chance _) (!schema.tables.isEmpty)
  refine (Attempt.yields_draw only).bind fun copies allowed => ?_
  cases copies with
  | false => exact (generator.yields_drawNew schema.freeName).mono fun _ defines => .inr defines
  | true =>
    have some_there : schema.tables ≠ [] := by simpa using allowed rfl
    exact (generator.yields_drawCopy named some_there schema.freeName).mono fun _ copies => .inl copies

/-- Only further errors are ones that a default value may cause. -/
theorem mem_expected {further : List String} {error : String} (listed : error ∈ defaultErrors) :
    error ∈ (({} : TableGenerator).expected.withPatterns further).patterns ↔ error ∈ further := by
  have other : error ∉ TableDefinition.expected.patterns := by
    rw [TableDefinition.expected, ExpectedErrors.ofList, ExpectedErrors.mem_distinct, List.mem_singleton]
    rintro rfl
    exact absurd listed (by decide)
  rw [ExpectedErrors.mem_withPatterns]
  exact or_iff_right other

/-- They are expected exactly if there is a default value. -/
theorem mem_expected_iff {defaults : Nat} {error : String} (listed : error ∈ defaultErrors) :
    error ∈ (({} : TableGenerator).expected.withPatterns
      (if 0 < defaults then defaultErrors else [])).patterns ↔ 0 < defaults := by
  rw [mem_expected listed]
  by_cases some_given : 0 < defaults
  · rw [if_pos some_given]
    exact iff_of_true listed some_given
  · rw [if_neg some_given]
    exact iff_of_false List.not_mem_nil some_given

/-- A new generator gives a valid definition of a table whose name no table has, over every schema, after any
calls of the generators and whatever words the source gives. It is a copy of a table of the schema, or it has
one to three numbered columns, at most one primary key over all of them and the table constraint, and checks
about single columns. It expects the errors of default values exactly if some column has one. -/
theorem draw_wellFormed {schema : Schema} (named : schema.Named) {randomness : Randomness}
    (evolved : randomness.Evolved) :
    (∀ table ∈ schema.tables, table.name ≠ schema.freeName) ∧
      ∃ query generator after,
        (({} : TableGenerator).draw schema).run randomness = (.ok (query, generator), after) ∧
        (((∃ model ∈ schema.tables, query.text =
              .text ("CREATE TABLE " ++ schema.freeName ++ "(LIKE " ++ model.name ++ " INCLUDING ALL)")) ∧
            ∀ error ∈ ["invalid input syntax", "out of range"], error ∉ query.expected.patterns) ∨
          ∃ text defaults, query.text = .text text ∧ DefinitionText schema.freeName defaults text ∧
            ∀ error ∈ ["invalid input syntax", "out of range"],
              (error ∈ query.expected.patterns ↔ 0 < defaults)) ∧
        after.Evolved := by
  constructor
  · intro table member same
    have taken : schema.has schema.freeName = true :=
      List.any_eq_true.2 ⟨table, member, by rw [named table member, same]; exact beq_self_eq_true _⟩
    exact Bool.false_ne_true (schema.has_freeName.symm.trans taken)
  · obtain ⟨⟨query, generator⟩, after, ended, kinds, history⟩ := yields_draw {} named randomness evolved
    refine ⟨query, generator, after, ended, ?_, history⟩
    rcases kinds with ⟨copied, expected⟩ | ⟨text, defaults, given, derived, expected⟩
    · refine .inl ⟨copied, fun error listed expecting => ?_⟩
      rw [expected] at expecting
      exact absurd ((mem_expected listed).1 expecting) List.not_mem_nil
    · refine .inr ⟨text, defaults, given, derived, fun error listed => ?_⟩
      rw [expected]
      exact mem_expected_iff listed

open Sample in
/-- Between the names of two tables the first free one is taken, after a number and a text have been drawn. -/
theorem draw_wellFormed_recalling :
    catalog.freeName = "t1" ∧ ∃ query generator after,
      (({} : TableGenerator).draw catalog).run recalling = (.ok (query, generator), after) ∧
      (((∃ model ∈ catalog.tables,
            query.text = .text ("CREATE TABLE t1(LIKE " ++ model.name ++ " INCLUDING ALL)")) ∧
          ∀ error ∈ ["invalid input syntax", "out of range"], error ∉ query.expected.patterns) ∨
        ∃ text defaults, query.text = .text text ∧ DefinitionText "t1" defaults text ∧
          ∀ error ∈ ["invalid input syntax", "out of range"],
            (error ∈ query.expected.patterns ↔ 0 < defaults)) ∧
      after.Evolved := by
  have free : catalog.freeName = "t1" := by decide +kernel
  have drawn := (draw_wellFormed catalog_readable.tables recalling_evolved).2
  rw [free] at drawn
  exact ⟨free, drawn⟩

end TableGenerator

end SerialCheck

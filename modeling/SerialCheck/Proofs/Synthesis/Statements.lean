import SerialCheck.Proofs.Synthesis.Expressions

/-!
# The grammar of data statements

`DataText` lists the texts of each kind of data statement for a table. Every statement that is drawn over
tables with columns belongs to it, whatever was drawn before and whatever is drawn now
(`drawStatement_wellFormed`): its columns are columns of one table of the schema from different positions, and
its constants are of their types.
-/
namespace SerialCheck

/-- The texts are constants of the types of the columns, one for each in order. -/
def ConstantsText (columns : List Column) (constants : List String) : Prop :=
  List.Forall₂ (fun column constant => ConstantText column.dataType constant) columns constants

/-- The text says which columns are read: all, or some from different positions. -/
inductive FetchText (columns : List Column) : String → Prop
  /-- All of them. -/
  | all : FetchText columns "*"
  /-- Some of them. -/
  | some {chosen : List Column} (nonempty : chosen ≠ []) (picked : chosen.Subperm columns) :
      FetchText columns (", ".intercalate (chosen.map Column.name))

/-- The text is a condition on the columns, or there is none. -/
inductive ConditionText (columns : List Column) : String → Prop
  /-- There is none. -/
  | none : ConditionText columns ""
  /-- It is a predicate with connectives nested at most twice. -/
  | of {tests : Nat} {predicate : String} (given : PredicateText columns 2 tests predicate) :
      ConditionText columns (" WHERE " ++ predicate)

/-- The text is a data statement of the kind about the table. -/
inductive DataText (table : Table) : StatementKind → String → Prop
  /-- One to three rows are added, with a constant for each of the columns that are listed. -/
  | insert {columns : List Column} {rows : List (List String)} (nonempty : columns ≠ [])
      (picked : columns.Subperm table.columns) (few : 1 ≤ rows.length ∧ rows.length ≤ 3)
      (typed : ∀ row ∈ rows, ConstantsText columns row) :
      DataText table .insert ("INSERT INTO " ++ table.name ++ "(" ++
        ", ".intercalate (columns.map Column.name) ++ ") VALUES " ++
          ", ".intercalate (rows.map fun row => "(" ++ ", ".intercalate row ++ ")"))
  /-- Columns are read. -/
  | select {fetch condition : String} (fetched : FetchText table.columns fetch)
      (met : ConditionText table.columns condition) :
      DataText table .select ("SELECT " ++ fetch ++ " FROM " ++ table.name ++ condition)
  /-- Columns are read, and the rows are locked. -/
  | selectForUpdate {reading : String} (reads : DataText table .select reading) :
      DataText table .selectForUpdate (reading ++ " FOR UPDATE")
  /-- Rows are removed. -/
  | delete {condition : String} (met : ConditionText table.columns condition) :
      DataText table .delete ("DELETE FROM " ++ table.name ++ condition)
  /-- Each of the columns that are listed is set to a constant. -/
  | update {columns : List Column} {constants : List String} {condition : String} (nonempty : columns ≠ [])
      (picked : columns.Subperm table.columns) (typed : ConstantsText columns constants)
      (met : ConditionText table.columns condition) :
      DataText table .update ("UPDATE " ++ table.name ++ " SET " ++
        ", ".intercalate (List.zipWith (fun column constant => column.name ++ " = " ++ constant) columns
          constants) ++ condition)

namespace DataStatement

open Attempt

/-! ## Parts of statements -/

/-- A row has a constant of its type for each column. -/
theorem yields_drawRow (columns : List Column) :
    (drawRow columns).Yields fun row => ConstantsText columns (row.map Constant.render) := by
  induction columns with
  | nil => exact Draw.yields_pure .nil
  | cons column columns hypothesis =>
    refine (Constant.yields_draw column.dataType).bind fun constant typed => ?_
    refine hypothesis.bind fun row others => Draw.yields_pure ?_
    exact .cons typed others

/-- So has each of as many rows as asked for. -/
theorem yields_drawRows (columns : List Column) (count : Nat) :
    (drawRows columns count).Yields fun rows =>
      rows.length = count ∧ ∀ row ∈ rows, ConstantsText columns (row.map Constant.render) := by
  induction count with
  | zero => exact Draw.yields_pure ⟨rfl, fun _ inside => absurd inside List.not_mem_nil⟩
  | succ count hypothesis =>
    refine (yields_drawRow columns).bind fun row typed => ?_
    refine hypothesis.bind fun rows ⟨many, others⟩ => Draw.yields_pure ?_
    exact ⟨congrArg Nat.succ many, List.forall_mem_cons.2 ⟨typed, others⟩⟩

/-- Each column is assigned a constant of its type. -/
theorem yields_drawAssignments (columns : List Column) :
    (drawAssignments columns).Yields fun assignments => ∃ constants, ConstantsText columns constants ∧
      assignments.map (fun (column, constant) => column ++ " = " ++ constant.render) =
        List.zipWith (fun column constant => column.name ++ " = " ++ constant) columns constants := by
  induction columns with
  | nil => exact Draw.yields_pure ⟨[], .nil, rfl⟩
  | cons column columns hypothesis =>
    refine (Constant.yields_draw column.dataType).bind fun constant typed => ?_
    refine hypothesis.bind fun assignments ⟨constants, others, texts⟩ => Draw.yields_pure ?_
    refine ⟨constant.render :: constants, .cons typed others, ?_⟩
    rw [List.map_cons, List.zipWith_cons_cons, texts]

variable {columns : List Column}

/-- A condition is a predicate over the columns, or there is none. -/
theorem yields_drawCondition (some_there : columns ≠ []) :
    (drawCondition columns).Yields fun condition => ConditionText columns (renderCondition condition) := by
  refine (yields_draw (Draw.yields_chance _)).bind fun given _ => yields_ite ?_ (yields_pure .none)
  refine (Predicate.yields_draw some_there _).bind fun predicate ⟨tests, derived⟩ => ?_
  exact yields_pure (.of derived)

/-- The names of columns that are texts are looked up without fail. -/
theorem yields_columnNames (named : ∀ column ∈ columns, column.entry = none) :
    (columnNames columns).Yields fun names => names = columns.map Column.name := by
  rw [columnNames_named named]
  exact yields_pure rfl

/-- What is read are all columns or some from different positions. -/
theorem yields_drawFetch (some_there : columns ≠ []) (named : ∀ column ∈ columns, column.entry = none) :
    (drawFetch columns).Yields fun fetch => FetchText columns (fetch.elim "*" commaList) := by
  refine (yields_draw (Draw.yields_chance _)).bind fun whole _ => yields_ite (yields_pure .all) ?_
  refine (yields_subset some_there).bind fun chosen ⟨nonempty, picked⟩ => ?_
  refine (yields_columnNames fun column member => named column (picked.subset member)).bind ?_
  rintro _ rfl
  exact yields_pure (.some nonempty picked)

/-! ## Statements for a table -/

variable {table : Table} (some_there : table.columns ≠ [])

include some_there

theorem yields_drawDelete :
    (drawDelete table).Yields fun statement => DataText table .delete statement.render :=
  (yields_drawCondition some_there).bind fun _ met => yields_pure (.delete met)

theorem yields_drawUpdate :
    (drawUpdate table).Yields fun statement => DataText table .update statement.render := by
  refine (yields_subset some_there).bind fun columns ⟨nonempty, picked⟩ => ?_
  refine (yields_draw (yields_drawAssignments columns)).bind fun assignments ⟨constants, typed, texts⟩ => ?_
  refine (yields_drawCondition some_there).bind fun condition met => yields_pure ?_
  rw [render, texts]
  exact .update nonempty picked typed met

variable (named : ∀ column ∈ table.columns, column.entry = none)

include named

theorem yields_drawInsert :
    (drawInsert table).Yields fun statement => DataText table .insert statement.render := by
  refine (yields_subset some_there).bind fun columns ⟨nonempty, picked⟩ => ?_
  refine (yields_draw (Draw.yields_oneOf 1 [1, 2, 3])).bind fun count listed => ?_
  have few : 1 ≤ count ∧ count ≤ 3 := by
    simp only [List.mem_cons, List.not_mem_nil, or_false] at listed
    omega
  refine (yields_draw (yields_drawRows columns count)).bind fun rows ⟨many, typed⟩ => ?_
  refine (yields_columnNames fun column member => named column (picked.subset member)).bind ?_
  rintro _ rfl
  apply yields_pure
  have texts : rows.map renderRow =
      (rows.map (List.map Constant.render)).map fun row => "(" ++ ", ".intercalate row ++ ")" := by
    rw [List.map_map]
    rfl
  rw [render, texts]
  refine .insert nonempty picked ?_ ?_
  · rw [List.length_map, many]
    exact few
  · intro row member
    obtain ⟨constants, listed, rfl⟩ := List.mem_map.1 member
    exact typed constants listed

theorem yields_drawSelect (locking : Bool) : (drawSelect locking table).Yields fun statement =>
    DataText table (if locking then .selectForUpdate else .select) statement.render := by
  refine (yields_drawFetch some_there named).bind fun fetch fetched => ?_
  refine (yields_drawCondition some_there).bind fun condition met => yields_pure ?_
  rw [render]
  cases locking with
  | false =>
    rw [if_neg Bool.false_ne_true, if_neg Bool.false_ne_true, String.append_empty]
    exact .select fetched met
  | true => exact .selectForUpdate (.select fetched met)

end DataStatement

/-! ## Statements for a schema -/

open Attempt

/-- A table is drawn if there is one. -/
theorem Schema.yields_randomTable {schema : Schema} (named : schema.Named) (some_there : schema.tables ≠ []) :
    Yields schema.randomTable (· ∈ schema.tables) := by
  have known : schema.tables.isEmpty = false := by simpa using some_there
  have permuted : schema.sorted.Perm schema.tables := sort_perm _ _
  have sorted : schema.sorted ≠ [] := by
    intro none
    rw [none] at permuted
    exact some_there permuted.symm.eq_nil
  rw [randomTable, known, if_neg Bool.false_ne_true, named.disorder?]
  exact (yields_member sorted).mono fun table member => permuted.subset member

/-- A statement of a data kind that is drawn is one of the kind about a table of the schema. -/
theorem yields_drawStatement {schema : Schema} (readable : schema.Readable) (some_there : schema.tables ≠ [])
    (filled : ∀ table ∈ schema.tables, table.columns ≠ []) (level : Value) {kind : StatementKind}
    (data : kind.isControl = false) :
    Yields (drawStatement schema level kind) fun query =>
      ∃ table ∈ schema.tables, ∃ text, query.text = .text text ∧ DataText table kind text := by
  have drawn {draw : Table → Attempt DataStatement}
      (given : ∀ table ∈ schema.tables,
        (draw table).Yields fun statement => DataText table kind statement.render) :
      Yields (do return (← draw (← schema.randomTable)).query) fun query =>
        ∃ table ∈ schema.tables, ∃ text, query.text = .text text ∧ DataText table kind text := by
    refine (Schema.yields_randomTable readable.tables some_there).bind fun table member => ?_
    refine (given table member).bind fun statement derived => yields_pure ?_
    exact ⟨table, member, statement.render, statement.query_text, derived⟩
  cases kind with
  | insert =>
    exact drawn fun table member =>
      DataStatement.yields_drawInsert (filled table member) (readable.columns table member)
  | select =>
    exact drawn fun table member =>
      DataStatement.yields_drawSelect (filled table member) (readable.columns table member) false
  | selectForUpdate =>
    exact drawn fun table member =>
      DataStatement.yields_drawSelect (filled table member) (readable.columns table member) true
  | delete => exact drawn fun table member => DataStatement.yields_drawDelete (filled table member)
  | update => exact drawn fun table member => DataStatement.yields_drawUpdate (filled table member)
  | begin | commit | rollback => cases data

/-- Every data statement that is drawn over tables with columns, after any calls of the generators and
whatever words the source gives, is well-formed: it is one of its kind about a table of the schema. It is
given up only if there is no table. An insertion for a given table is about that table. -/
theorem drawStatement_wellFormed {schema : Schema} (readable : schema.Readable)
    (filled : ∀ table ∈ schema.tables, table.columns ≠ []) {randomness : Randomness}
    (evolved : randomness.Evolved) :
    (∀ level kind, kind.isControl = false →
      (schema.tables = [] →
        (drawStatement schema level kind).run randomness = (.error .noTable, randomness)) ∧
      (schema.tables ≠ [] → ∃ query after,
        (drawStatement schema level kind).run randomness = (.ok query, after) ∧
        (∃ table ∈ schema.tables, ∃ text, query.text = .text text ∧ DataText table kind text) ∧
        after.Evolved)) ∧
      ∀ table ∈ schema.tables, ∃ statement after,
        (DataStatement.drawInsert table).run randomness = (.ok statement, after) ∧
          (statement.query.text = .text statement.render ∧ DataText table .insert statement.render) ∧
          after.Evolved := by
  refine ⟨fun level kind data => ⟨fun none => ?_, fun some_there => ?_⟩, fun table member => ?_⟩
  · have missing : schema.randomTable = throw .noTable := by
      rw [Schema.randomTable, none, List.isEmpty_nil, if_pos rfl]
    cases kind with
    | begin | commit | rollback => cases data
    | insert | select | selectForUpdate | delete | update =>
      rw [drawStatement, missing]
      rfl
  · exact yields_drawStatement readable some_there filled level data randomness evolved
  · have drawn := DataStatement.yields_drawInsert (filled table member) (readable.columns table member)
    obtain ⟨statement, after, ended, derived, history⟩ := drawn randomness evolved
    exact ⟨statement, after, ended, ⟨statement.query_text, derived⟩, history⟩

namespace Sample

/-- A schema of two tables, between whose names one is free. -/
def catalog : Schema where
  tables := [
    { name := "t0", columns := [{ name := "c0", dataType := .text }, { name := "c1", dataType := .numeric }] },
    { name := "t2", columns := [{ name := "c0", dataType := .int }] }]

theorem catalog_readable : catalog.Readable where
  tables := by simp [Schema.Named, catalog]
  columns := by simp [catalog]

theorem catalog_filled : ∀ table ∈ catalog.tables, table.columns ≠ [] := by simp [catalog]

/-- Randomness from which a number and a text have been drawn. -/
def recalling : Randomness :=
  (Draw.text Constant.maxTextLength (Draw.number Constant.minNumber Constant.numberBound
    { seed := .integer 0, source := .ofSeed 0 [0, 0, 0x80000000] }).2).2

theorem recalling_evolved : recalling.Evolved := .text (.number (.start _ _))

end Sample

open Sample in
/-- An update of one of two tables may repeat what was drawn before. -/
theorem drawStatement_wellFormed_recalling :
    ∃ query after, (drawStatement catalog .null .update).run recalling = (.ok query, after) ∧
      (∃ table ∈ catalog.tables, ∃ text, query.text = .text text ∧ DataText table .update text) ∧
      after.Evolved := by
  have drawn := (drawStatement_wellFormed catalog_readable catalog_filled recalling_evolved).1
  exact (drawn .null .update rfl).2 (List.cons_ne_nil _ _)

end SerialCheck

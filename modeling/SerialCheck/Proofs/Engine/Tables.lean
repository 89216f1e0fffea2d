import SerialCheck.Server.Engine

/-!
# Rows in tables

Transactions do nothing to the committed tables but add rows at their ends. `Database.adding` adds
rows, each to its table, and `rowsFor` picks the rows of one table; `table?_adding` says that what a
table holds afterwards is what it held before with its rows behind.
-/
namespace SerialCheck

/-- Rows, each with the name of its table. -/
abbrev TableRows := List (String × Value)

/-- The rows of one table. -/
def rowsFor (name : String) (rows : TableRows) : Rows := (rows.filter (·.1 == name)).map Prod.snd

@[simp] theorem rowsFor_nil (name : String) : rowsFor name [] = [] := rfl

@[simp] theorem rowsFor_append (name : String) (first second : TableRows) :
    rowsFor name (first ++ second) = rowsFor name first ++ rowsFor name second := by
  simp [rowsFor, List.filter_append]

/-- The table with rows added at its end. -/
def StoredTable.adding (table : StoredTable) (rows : Rows) : StoredTable :=
  { table with rows := table.rows ++ rows }

@[simp] theorem StoredTable.adding_nil (table : StoredTable) : table.adding [] = table := by
  simp [StoredTable.adding]

/-- The name and the columns of a table. -/
def StoredTable.head (table : StoredTable) : String × List CatalogColumn :=
  (table.name, table.columns)

namespace Database

variable {database : Database} {name : String} {row : Value}

/-- There is a table of that name. -/
def Knows (database : Database) (name : String) : Prop := (database.table? name).isSome = true

instance (database : Database) (name : String) : Decidable (database.Knows name) :=
  inferInstanceAs (Decidable (_ = true))

theorem isNone_iff : (database.table? name).isNone = true ↔ ¬ database.Knows name := by
  rw [Option.isNone_iff_eq_none, Knows, Option.not_isSome_iff_eq_none]

/-- The database with rows added, each to its table. -/
def adding (database : Database) (rows : TableRows) : Database :=
  rows.foldl (fun database (name, row) => database.add name row) database

@[simp] theorem adding_nil (database : Database) : database.adding [] = database := rfl

theorem adding_append (database : Database) (first second : TableRows) :
    database.adding (first ++ second) = (database.adding first).adding second :=
  List.foldl_append

/-- What a transaction commits is added. -/
theorem commitTo_eq_adding (work : Work) : work.commitTo database = database.adding work.pending :=
  rfl

/-- The name of a table that is found is the one that was looked for. -/
theorem name_of_table? {table : StoredTable} (found : database.table? name = some table) :
    table.name = name := by
  unfold table? at found
  have named := List.find?_some found
  exact beq_iff_eq.1 named

/-- A row that is added to a known table stands at its end, and no other table is changed. -/
theorem table?_add (known : database.Knows name) (other : String) :
    (database.add name row).table? other =
      (database.table? other).map fun table => table.adding (rowsFor other [(name, row)]) := by
  rw [add, if_neg (mt isNone_iff.1 (not_not_intro known))]
  unfold table?
  rw [List.find?_map]
  have same : ((fun table : StoredTable => table.name == other) ∘ fun table : StoredTable =>
      if table.name = name then { table with rows := table.rows ++ [row] } else table) =
        fun table => table.name == other := by
    funext table
    show ((if table.name = name then { table with rows := table.rows ++ [row] } else table).name ==
      other) = _
    split <;> rfl
  rw [same]
  cases found : database.tables.find? (·.name == other) with
  | none => rfl
  | some table =>
    have named : table.name = other := name_of_table? found
    by_cases here : name = other
    · simp [StoredTable.adding, rowsFor, named, here]
    · simp [rowsFor, named, here, Ne.symm here]

/-- Adding rows to known tables makes no table known or unknown. -/
theorem knows_add (known : database.Knows name) (other : String) :
    (database.add name row).Knows other ↔ database.Knows other := by
  simp [Knows, table?_add known]

/-- Rows that are added to known tables stand at their ends. -/
theorem table?_adding {rows : TableRows} (known : ∀ entry ∈ rows, database.Knows entry.1)
    (other : String) :
    (database.adding rows).table? other =
      (database.table? other).map fun table => table.adding (rowsFor other rows) := by
  induction rows generalizing database with
  | nil => simp
  | cons entry rest hypothesis =>
    have first : database.Knows entry.1 := known entry List.mem_cons_self
    have further : ∀ next ∈ rest, (database.add entry.1 entry.2).Knows next.1 := fun next member =>
      (knows_add first next.1).2 (known next (List.mem_cons_of_mem _ member))
    have both : rowsFor other (entry :: rest) = rowsFor other [entry] ++ rowsFor other rest := by
      rw [← rowsFor_append, List.singleton_append]
    show ((database.add entry.1 entry.2).adding rest).table? other = _
    rw [hypothesis further, table?_add first, Option.map_map, both]
    congr 1
    funext table
    simp [StoredTable.adding]

theorem knows_adding {rows : TableRows} (known : ∀ entry ∈ rows, database.Knows entry.1)
    (other : String) : (database.adding rows).Knows other ↔ database.Knows other := by
  simp [Knows, table?_adding known]

/-- Adding rows changes nothing about the tables but their rows. -/
theorem columns_add (known : database.Knows name) (row : Value) :
    (database.add name row).tables.map StoredTable.head = database.tables.map StoredTable.head ∧
      (database.add name row).layouts = database.layouts := by
  rw [add, if_neg (mt isNone_iff.1 (not_not_intro known))]
  refine ⟨?_, rfl⟩
  rw [List.map_map]
  refine List.map_congr_left fun table _ => ?_
  simp only [Function.comp_apply]
  split <;> rfl

theorem columns_adding {rows : TableRows} (known : ∀ entry ∈ rows, database.Knows entry.1) :
    (database.adding rows).tables.map StoredTable.head = database.tables.map StoredTable.head ∧
      (database.adding rows).layouts = database.layouts := by
  induction rows generalizing database with
  | nil => exact ⟨rfl, rfl⟩
  | cons entry rest hypothesis =>
    have first : database.Knows entry.1 := known entry List.mem_cons_self
    have further : ∀ next ∈ rest, (database.add entry.1 entry.2).Knows next.1 := fun next member =>
      (knows_add first next.1).2 (known next (List.mem_cons_of_mem _ member))
    obtain ⟨columns, layouts⟩ := hypothesis further
    obtain ⟨before, kept⟩ := columns_add first entry.2
    exact ⟨columns.trans before, layouts.trans kept⟩

/-- A snapshot has the rows of every known table. -/
theorem lookup_snapshot {table : StoredTable} (found : database.table? name = some table) :
    database.snapshot.lookup name = some table.rows := by
  have named : table.name = name := name_of_table? found
  rw [snapshot, List.lookup_append]
  suffices front : (database.tables.map fun table => (table.name, table.rows)).lookup name =
      some table.rows by
    rw [front]
    rfl
  unfold table? at found
  generalize database.tables = tables at found
  induction tables with
  | nil => cases found
  | cons first rest hypothesis =>
    rw [List.find?_cons] at found
    rw [List.map_cons, List.lookup_cons]
    cases here : first.name == name with
    | true =>
      rw [here] at found
      cases found
      rw [beq_iff_eq.1 here, beq_self_eq_true]
    | false =>
      rw [here] at found
      have apart : (name == first.name) = false := by
        rw [beq_eq_false_iff_ne] at here ⊢
        exact Ne.symm here
      rw [apart]
      exact hypothesis found

end Database

/-- The databases have the same tables, and create tables alike. -/
structure Database.Matches (database other : Database) : Prop where
  /-- The tables. -/
  tables : other.tables = database.tables
  /-- The columns of tables to come. -/
  layouts : other.layouts = database.layouts

namespace Database.Matches

variable {first second third : Database}

theorem refl (database : Database) : database.Matches database := ⟨rfl, rfl⟩

theorem symm (same : first.Matches second) : second.Matches first :=
  ⟨same.tables.symm, same.layouts.symm⟩

theorem trans (one : first.Matches second) (two : second.Matches third) : first.Matches third :=
  ⟨two.tables.trans one.tables, two.layouts.trans one.layouts⟩

/-- Matching databases find the same tables. -/
theorem table?_eq (same : first.Matches second) (name : String) :
    second.table? name = first.table? name := by
  rw [table?, table?, same.tables]

theorem knows_iff (same : first.Matches second) (name : String) :
    second.Knows name ↔ first.Knows name := by
  rw [Knows, Knows, same.table?_eq]

end Database.Matches

end SerialCheck

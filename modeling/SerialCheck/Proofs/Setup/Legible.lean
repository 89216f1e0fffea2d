import SerialCheck.Proofs.Setup.Catalog
import SerialCheck.Proofs.Setup.Upkeep

/-!
# Catalogs that can be read

A row of the catalog can be read if the type of its column is a text. The engine lists its tables by such
rows as long as its columns have such types (`Database.Typed.catalog`), and a schema is read from
them whose tables have an order (`Bench.legible_of_rows`).
-/
namespace SerialCheck

section Sorting

variable {α ε : Type} {below : α → α → Except ε Bool} {members : List α}

/-- The comparison of any two members has a result. -/
def Comparable (below : α → α → Except ε Bool) (members : List α) : Prop :=
  ∀ left ∈ members, ∀ right ∈ members, ∃ answer, below left right = .ok answer

/-- A place is found for a member that can be compared. -/
theorem placeFor_ok {member : α} {sorted : Array α}
    (comparable : ∀ other ∈ sorted, ∃ answer, below member other = .ok answer) (halvings : Nat) :
    ∀ low high, ∃ place, placeFor below member sorted halvings low high = .ok place := by
  induction halvings with
  | zero => exact fun low _ => ⟨low, rfl⟩
  | succ halvings hypothesis =>
    intro low high
    rw [placeFor]
    split
    · exact ⟨low, rfl⟩
    · simp only
      split
      · exact ⟨low, rfl⟩
      next other found =>
        obtain ⟨answer, compared⟩ := comparable other (Array.mem_of_getElem? found)
        rw [compared]
        cases answer with
        | true => exact hypothesis low _
        | false => exact hypothesis _ high

/-- Members that can be compared are inserted. -/
theorem insertAll_ok (sorted : List α) (comparable : Comparable below (sorted ++ members)) :
    ∃ result, insertAll below sorted.toArray members = .ok result := by
  induction members generalizing sorted with
  | nil => exact ⟨sorted, rfl⟩
  | cons member members hypothesis =>
    have compared : ∀ other ∈ sorted.toArray, ∃ answer, below member other = .ok answer := by
      intro other inside
      exact comparable member (by simp) other (by simp [List.mem_toArray.1 inside])
    obtain ⟨place, found⟩ := placeFor_ok compared (sorted.toArray.size + 1) 0 sorted.toArray.size
    rw [insertAll, found]
    refine hypothesis (sorted.take place ++ member :: sorted.drop place) ?_
    have known : ∀ other ∈ (sorted.take place ++ member :: sorted.drop place) ++ members,
        other ∈ sorted ++ member :: members := by
      intro other inside
      simp only [List.append_assoc, List.cons_append, List.mem_append, List.mem_cons] at inside ⊢
      rcases inside with front | same | back | later
      · exact .inl (List.mem_of_mem_take front)
      · exact .inr (.inl same)
      · exact .inl (List.mem_of_mem_drop back)
      · exact .inr (.inr later)
    exact fun left inside right listed => comparable left (known left inside) right (known right listed)

/-- A run is taken from members that can be compared. -/
theorem takeRun_ok (falling : Bool) {last : α} (comparable : Comparable below (last :: members)) :
    ∃ run rest, takeRun below falling last members = .ok (run, rest) ∧ run ++ rest = members := by
  induction members generalizing last with
  | nil => exact ⟨[], [], rfl, rfl⟩
  | cons member members hypothesis =>
    obtain ⟨answer, compared⟩ := comparable member (by simp) last (by simp)
    rw [takeRun, compared]
    by_cases same : (answer == falling) = true
    · obtain ⟨run, rest, taken, all⟩ := hypothesis fun left inside right listed =>
        comparable left (List.mem_cons_of_mem _ inside) right (List.mem_cons_of_mem _ listed)
      refine ⟨member :: run, rest, ?_, by rw [List.cons_append, all]⟩
      simp only [bind, Except.bind, same, ↓reduceIte, taken, pure, Except.pure]
    · refine ⟨[], member :: members, ?_, rfl⟩
      simp only [bind, Except.bind, same, Bool.false_eq_true, ↓reduceIte, pure, Except.pure]

/-- So they have an order. -/
theorem sortChecked_ok (comparable : Comparable below members) :
    ∃ sorted, sortChecked below members = .ok sorted := by
  match members, comparable with
  | [], _ => exact ⟨[], rfl⟩
  | [member], _ => exact ⟨[member], rfl⟩
  | first :: second :: members, comparable =>
    obtain ⟨falling, compared⟩ := comparable second (by simp) first (by simp)
    obtain ⟨run, rest, taken, all⟩ := takeRun_ok falling fun left inside right listed =>
      comparable left (List.mem_cons_of_mem _ inside) right (List.mem_cons_of_mem _ listed)
    rw [sortChecked, compared]
    simp only [bind, Except.bind, taken]
    refine insertAll_ok _ ?_
    have known : ∀ other ∈ (if falling then (first :: second :: run).reverse
        else first :: second :: run) ++ rest, other ∈ first :: second :: members := by
      intro other inside
      rw [← all]
      cases falling <;> simp at inside ⊢ <;> tauto
    exact fun left inside right listed => comparable left (known left inside) right (known right listed)

end Sorting

/-- The type of the column is a text. -/
def CatalogColumn.Typed (column : CatalogColumn) : Prop := ∃ name, column.dataType = .text name

/-- The rows describe columns whose types are texts. -/
def Rows.Describe (rows : Rows) : Prop :=
  ∃ entries : List (String × CatalogColumn), rows = entries.map catalogRow ∧
    ∀ entry ∈ entries, entry.2.Typed

namespace Schema

/-- The names of tables that are known by texts have an order. -/
theorem Named.disorder? {schema : Schema} (named : schema.Named) : schema.disorder? = none := by
  have comparable : Comparable Value.isBelow (schema.tables.map Table.key) := by
    have text : ∀ key ∈ schema.tables.map Table.key, ∃ name, key = .text name := by
      intro key listed
      obtain ⟨table, member, rfl⟩ := List.mem_map.1 listed
      exact ⟨table.name, by rw [Table.key, named table member]; rfl⟩
    intro left inside right listed
    obtain ⟨first, rfl⟩ := text left inside
    obtain ⟨second, rfl⟩ := text right listed
    exact ⟨_, rfl⟩
  obtain ⟨sorted, ordered⟩ := sortChecked_ok comparable
  rw [Schema.disorder?, ordered]

end Schema

namespace Bench

/-- A row that describes a column is read. -/
theorem addRow_ok {schema : Schema} {entry : String × CatalogColumn} (named : schema.Named)
    (typed : entry.2.Typed) : ∃ after, addRow schema (catalogRow entry) = .ok after ∧ after.Named := by
  obtain ⟨table, name, dataType, nullable⟩ := entry
  obtain ⟨type, rfl⟩ := typed
  have described : ∃ column, columnOf name (.text type) nullable = .ok column := by
    cases name <;> exact ⟨_, rfl⟩
  obtain ⟨column, described⟩ := described
  refine ⟨schema.addColumn (.text table) column, ?_, (Schema.addColumn_text named table column).1⟩
  have fit : (Value.text table).unfit? = none := rfl
  simp only [addRow, catalogRow, Value.members, fit, described, bind, Except.bind, pure, Except.pure]

/-- Rows that describe columns are read. -/
theorem foldlM_addRow_ok {entries : List (String × CatalogColumn)} {schema : Schema}
    (named : schema.Named) (typed : ∀ entry ∈ entries, entry.2.Typed) :
    ∃ after, (entries.map catalogRow).foldlM addRow schema = .ok after ∧ after.Named := by
  induction entries generalizing schema with
  | nil => exact ⟨schema, rfl, named⟩
  | cons entry rest hypothesis =>
    obtain ⟨between, added, still⟩ := addRow_ok named (typed entry List.mem_cons_self)
    rw [List.map_cons, List.foldlM_cons, added]
    exact hypothesis still fun other inside => typed other (List.mem_cons_of_mem _ inside)

/-- So an outcome with such rows, or with none, is legible whatever faults are admitted. -/
theorem legible_of_rows (admits : Fault → Prop) {outcome : Outcome}
    (describe : ∀ rows, outcome.rows = some rows → rows.Describe) : Legible admits outcome := by
  have read : ∃ schema, schemaOf (outcome.rows.getD []) = .ok schema ∧ schema.Named := by
    have start : Schema.Named {} := by
      intro table member
      cases member
    cases held : outcome.rows with
    | none => exact ⟨{}, rfl, start⟩
    | some rows =>
      obtain ⟨entries, rfl, typed⟩ := describe rows held
      exact foldlM_addRow_ok start typed
  obtain ⟨schema, read, named⟩ := read
  constructor
  · intro cause unread
    rw [read] at unread
    cases unread
  · intro other cause same disorder
    cases read.symm.trans same
    rw [named.disorder?] at disorder
    cases disorder

end Bench

/-- The columns of all tables, and of those to be created, have types that are texts. -/
structure Database.Typed (database : Database) : Prop where
  /-- The columns of tables. -/
  tables : ∀ table ∈ database.tables, ∀ column ∈ table.columns, column.Typed
  /-- The columns that tables get when they are created. -/
  layouts : ∀ layout ∈ database.layouts, ∀ column ∈ layout.2, column.Typed

namespace Database.Typed

variable {database : Database}

/-- The catalog describes the columns. -/
theorem catalog (typed : database.Typed) : Rows.Describe database.catalog := by
  refine ⟨database.described, database.catalog_eq, ?_⟩
  rintro ⟨name, column⟩ inside
  obtain ⟨head, listed, here⟩ := List.mem_flatMap.1 inside
  obtain ⟨other, held, same⟩ := List.mem_map.1 here
  cases same
  obtain ⟨table, known, rfl⟩ := List.mem_map.1 ((sort_perm _ _).mem_iff.1 listed)
  exact typed.tables table known column held

/-- A table that is created has typed columns. -/
theorem create (typed : database.Typed) (name : String) : (database.create name).Typed where
  tables := by
    intro table member column held
    rcases List.mem_append.1 member with known | new
    · exact typed.tables table known column held
    · rw [List.mem_singleton.1 new] at held
      cases found : database.layouts.lookup name with
      | none =>
        simp only [found, Option.getD_none, defaultLayout, List.mem_singleton] at held
        exact ⟨"integer", by rw [held]⟩
      | some columns =>
        simp only [found, Option.getD_some] at held
        obtain ⟨front, back, split, _⟩ := List.lookup_eq_some_iff.1 found
        exact typed.layouts (name, columns) (by simp [split]) column held
  layouts := typed.layouts

/-- Forgetting a table changes no other one. -/
theorem drop (typed : database.Typed) (name : String) : (database.drop name).Typed where
  tables := fun table member => typed.tables table (List.mem_filter.1 member).1
  layouts := typed.layouts

/-- A row does not change columns. -/
theorem add (typed : database.Typed) (name : String) (row : Value) :
    (database.add name row).Typed := by
  unfold Database.add
  split
  · exact ⟨typed.tables, typed.layouts⟩
  · refine ⟨?_, typed.layouts⟩
    intro table member
    obtain ⟨other, known, rfl⟩ := List.mem_map.1 member
    have columns : (if other.name = name then { other with rows := other.rows ++ [row] }
        else other).columns = other.columns := by
      split <;> rfl
    rw [columns]
    exact typed.tables other known

/-- Nor do the rows of a transaction. -/
theorem commitTo (typed : database.Typed) (work : Work) : (work.commitTo database).Typed := by
  unfold Work.commitTo
  generalize work.pending = rows
  induction rows generalizing database with
  | nil => exact typed
  | cons entry rest hypothesis => exact hypothesis (typed.add entry.1 entry.2)

/-- Whatever text the engine executes, the columns stay typed. -/
theorem execute (typed : database.Typed) (work : Option Work) (text : String) :
    (Engine.execute ⟨database, work⟩ text).2.database.Typed := by
  rw [Engine.execute]
  cases Command.ofText text with
  | catalog => exact typed
  | create name =>
    simp only [Engine.perform]
    split
    · exact typed
    · exact typed.create name
  | drop name => exact typed.drop name
  | begin => exact typed
  | commit => exact typed.commitTo _
  | rollback => exact typed
  | write name =>
    simp only [Engine.perform, Engine.write]
    split
    · exact typed
    · split
      · exact typed.add name _
      · exact typed
  | read name =>
    simp only [Engine.perform, Engine.read]
    split
    · exact typed
    · split <;> exact typed
  | other => exact typed

end Database.Typed

end SerialCheck

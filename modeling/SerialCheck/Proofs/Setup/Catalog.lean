import SerialCheck.Bench.Setup
import SerialCheck.Proofs.Engine.Tables

/-!
# What the catalog tells

The catalog is determined by the names and columns of the tables (`catalog_congr`), and the schema
that is read from it knows exactly the tables with a column (`mem_names_schemaOf`).
-/
namespace SerialCheck

section Sorting

variable {α β : Type} {below : α → α → Bool} {under : β → β → Bool} {change : α → β}

/-- What keeps the order of members may be done before they are inserted or after. -/
theorem map_insertSorted (same : ∀ left right, under (change left) (change right) = below left right)
    (member : α) (members : List α) :
    (insertSorted below member members).map change =
      insertSorted under (change member) (members.map change) := by
  induction members with
  | nil => rfl
  | cons head tail hypothesis =>
    rw [insertSorted, List.map_cons, insertSorted, same]
    split
    · rw [List.map_cons, hypothesis]
    · rfl

/-- What keeps the order of members may be done before they are sorted or after. -/
theorem map_sort (same : ∀ left right, under (change left) (change right) = below left right)
    (members : List α) : (sort below members).map change = sort under (members.map change) := by
  induction members with
  | nil => rfl
  | cons head tail hypothesis => rw [sort, map_insertSorted same, hypothesis, List.map_cons, sort]

end Sorting

/-- The row by which the catalog describes a column of a table. -/
def catalogRow (entry : String × CatalogColumn) : Value :=
  .row [.text entry.1, entry.2.name, entry.2.dataType, entry.2.nullable]

namespace Database

/-- The columns that the catalog describes, each with its table. -/
def described (database : Database) : List (String × CatalogColumn) :=
  (sort (fun left right => textBelow left.1 right.1) (database.tables.map StoredTable.head)).flatMap
    fun head => head.2.map fun column => (head.1, column)

/-- The catalog has a row for each column that it describes. -/
theorem catalog_eq (database : Database) :
    database.catalog = database.described.map catalogRow := by
  have sorted : (sort (fun left right => textBelow left.name right.name) database.tables).map
      StoredTable.head = sort (fun left right => textBelow left.1 right.1)
        (database.tables.map StoredTable.head) := by
    refine map_sort ?_ _
    intro left right
    rfl
  rw [described, ← sorted, catalog, List.flatMap_map, List.map_flatMap]
  simp only [List.map_map]
  rfl

/-- Databases whose tables have the same names and columns have the same catalog. -/
theorem catalog_congr {first second : Database}
    (heads : first.tables.map StoredTable.head = second.tables.map StoredTable.head) :
    first.catalog = second.catalog := by
  rw [catalog_eq, catalog_eq, described, described, heads]

/-- Matching databases have the same catalog. -/
theorem Matches.catalog_eq {first second : Database} (same : first.Matches second) :
    second.catalog = first.catalog := catalog_congr (by rw [same.tables])

/-- The tables that the catalog describes are those with a column. -/
theorem exists_described {database : Database} {name : String} :
    (∃ entry ∈ database.described, entry.1 = name) ↔
      ∃ table ∈ database.tables, table.name = name ∧ table.columns ≠ [] := by
  have member : ∀ head, head ∈ sort (fun left right => textBelow left.1 right.1)
      (database.tables.map StoredTable.head) ↔ ∃ table ∈ database.tables, table.head = head := by
    intro head
    rw [(sort_perm _ _).mem_iff, List.mem_map]
  constructor
  · rintro ⟨entry, inside, rfl⟩
    obtain ⟨head, listed, here⟩ := List.mem_flatMap.1 inside
    obtain ⟨column, held, rfl⟩ := List.mem_map.1 here
    obtain ⟨table, known, rfl⟩ := (member head).1 listed
    exact ⟨table, known, rfl, List.ne_nil_of_mem held⟩
  · rintro ⟨table, known, rfl, some⟩
    obtain ⟨column, held⟩ := List.exists_mem_of_ne_nil _ some
    refine ⟨(table.name, column), List.mem_flatMap.2 ⟨table.head, ?_, ?_⟩, rfl⟩
    · exact (member table.head).2 ⟨table, known, rfl⟩
    · exact List.mem_map.2 ⟨column, held, rfl⟩

end Database

namespace Schema

/-- The tables are all known by texts. -/
def Named (schema : Schema) : Prop := ∀ table ∈ schema.tables, table.entry = none

/-- The names of a schema are those of its tables. -/
theorem mem_names {schema : Schema} {name : String} :
    name ∈ schema.names ↔ ∃ table ∈ schema.tables, table.name = name := by
  rw [names, List.mem_map]
  simp only [sorted, (sort_perm _ _).mem_iff]

/-- A column adds its table to those that are known. -/
theorem addColumn_text {schema : Schema} (named : schema.Named) (table : String)
    (column : Column) :
    (schema.addColumn (.text table) column).Named ∧
      ∀ name, name ∈ (schema.addColumn (.text table) column).names ↔
        name ∈ schema.names ∨ table = name := by
  have same : ∀ other ∈ schema.tables, other.key.same (.text table) =
      (other.name == table) := by
    intro other member
    simp [Table.key, named other member, Value.same, Value.equal, Except.toOption]
  have present : (schema.tables.any fun other => other.key.same (.text table)) = true ↔
      table ∈ schema.names := by
    rw [List.any_eq_true, mem_names]
    refine exists_congr fun other => and_congr_right fun member => ?_
    rw [same other member, beq_iff_eq]
  unfold addColumn
  split
  next known =>
    have kept : ∀ other : Table, ∃ columns, (if other.key.same (.text table) then
        { other with columns := other.columns ++ [column] } else other) =
          { other with columns := columns } := by
      intro other
      split
      · exact ⟨_, rfl⟩
      · exact ⟨_, rfl⟩
    refine ⟨?_, fun name => ?_⟩
    · intro changed member
      obtain ⟨other, listed, rfl⟩ := List.mem_map.1 member
      obtain ⟨columns, shape⟩ := kept other
      rw [shape]
      exact named other listed
    · have names : name ∈ schema.names ↔ name ∈ schema.names ∨ table = name := by
        refine ⟨.inl, fun either => either.elim id ?_⟩
        rintro rfl
        exact present.1 known
      rw [← names, mem_names, mem_names]
      simp only [List.mem_map]
      constructor
      · rintro ⟨_, ⟨other, listed, rfl⟩, rfl⟩
        obtain ⟨columns, shape⟩ := kept other
        exact ⟨other, listed, by rw [shape]⟩
      · rintro ⟨other, listed, rfl⟩
        obtain ⟨columns, shape⟩ := kept other
        exact ⟨_, ⟨other, listed, rfl⟩, by rw [shape]⟩
  next =>
    refine ⟨?_, fun name => ?_⟩
    · intro other member
      rcases List.mem_append.1 member with listed | new
      · exact named other listed
      · rw [List.mem_singleton.1 new]
    · rw [mem_names, mem_names]
      simp [or_and_right, exists_or]

end Schema

namespace Bench

/-- A row of the catalog adds its table to those that are known. -/
theorem addRow_named {schema after : Schema} {entry : String × CatalogColumn}
    (named : schema.Named) (added : addRow schema (catalogRow entry) = .ok after) :
    after.Named ∧ ∀ name, name ∈ after.names ↔ name ∈ schema.names ∨ entry.1 = name := by
  have fit : (Value.text entry.1).unfit? = none := rfl
  cases described : columnOf entry.2.name entry.2.dataType entry.2.nullable with
  | error cause =>
    simp [addRow, catalogRow, Value.members, fit, described, bind, Except.bind] at added
  | ok column =>
    simp only [addRow, catalogRow, Value.members, fit, described, bind, Except.bind, pure,
      Except.pure, Except.ok.injEq] at added
    rw [← added]
    exact Schema.addColumn_text named entry.1 column

/-- The rows of a catalog make their tables known. -/
theorem foldlM_addRow_named {entries : List (String × CatalogColumn)} {schema after : Schema}
    (named : schema.Named) (read : (entries.map catalogRow).foldlM addRow schema = .ok after) :
    ∀ name, name ∈ after.names ↔ name ∈ schema.names ∨ ∃ entry ∈ entries, entry.1 = name := by
  induction entries generalizing schema with
  | nil =>
    cases read
    simp
  | cons entry rest hypothesis =>
    rw [List.map_cons, List.foldlM_cons] at read
    cases added : addRow schema (catalogRow entry) with
    | error cause =>
      rw [added] at read
      cases read
    | ok between =>
      rw [added] at read
      obtain ⟨still, names⟩ := addRow_named named added
      intro name
      rw [hypothesis still read name, names, or_assoc]
      simp

/-- The schema that is read from the catalog knows the tables that have a column. -/
theorem mem_names_schemaOf {database : Database} {schema : Schema}
    (read : schemaOf database.catalog = .ok schema) (name : String) :
    name ∈ schema.names ↔ ∃ table ∈ database.tables, table.name = name ∧ table.columns ≠ [] := by
  rw [schemaOf, Database.catalog_eq] at read
  have start : Schema.Named {} := by
    intro table member
    cases member
  rw [foldlM_addRow_named start read name, Database.exists_described]
  simp [Schema.mem_names]

end Bench

end SerialCheck

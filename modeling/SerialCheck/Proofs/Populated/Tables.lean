import SerialCheck.Proofs.Populated.Names
import SerialCheck.Proofs.Setup.Restore

/-!
# The first tables

Tables that are created one after the other have the first numbers. Where their columns are described by
texts, the catalog can be read, and the schema that it tells lists them (`Database.Numbered.lists`). So the
name of the next table is free there, and it can be created (`Database.Numbered.setUp`).
-/
namespace SerialCheck

section Sorting

variable {α : Type} {below under : α → α → Bool}

/-- Where two orders agree, a member is inserted in the same place. -/
theorem insertSorted_congr {member : α} {members : List α}
    (agree : ∀ head ∈ members, below head member = under head member) :
    insertSorted below member members = insertSorted under member members := by
  induction members with
  | nil => rfl
  | cons head tail hypothesis =>
    have rest := hypothesis fun other inside => agree other (List.mem_cons_of_mem _ inside)
    rw [insertSorted, insertSorted, agree head List.mem_cons_self, rest]

/-- Where two orders agree, members are sorted the same. -/
theorem sort_congr {members : List α}
    (agree : ∀ left ∈ members, ∀ right ∈ members, below left right = under left right) :
    sort below members = sort under members := by
  induction members with
  | nil => rfl
  | cons head tail hypothesis =>
    have rest := hypothesis fun left inside right listed =>
      agree left (List.mem_cons_of_mem _ inside) right (List.mem_cons_of_mem _ listed)
    rw [sort, sort, rest]
    refine insertSorted_congr fun other inside => ?_
    have listed : other ∈ tail := (sort_perm under tail).subset inside
    exact agree other (List.mem_cons_of_mem _ listed) head List.mem_cons_self

end Sorting

/-- The names of tables that are known by texts are sorted as texts. -/
theorem Schema.Named.names_eq {schema : Schema} (named : schema.Named) :
    schema.names = sortTexts (schema.tables.map Table.name) := by
  have agree : ∀ left ∈ schema.tables, ∀ right ∈ schema.tables,
      left.isBelow right = textBelow left.name right.name := by
    intro left inside right listed
    rw [Table.isBelow, named left inside, named right listed]
  rw [names, sorted, sort_congr agree]
  exact map_sort (fun _ _ => rfl) schema.tables

namespace Database

/-- Every table has a column, those to come included, and all columns are described by texts. -/
structure Worded (database : Database) : Prop where
  /-- The tables that are there. -/
  tables : ∀ table ∈ database.tables, table.columns ≠ [] ∧ ∀ column ∈ table.columns, column.Worded
  /-- The tables to come. -/
  layouts : ∀ layout ∈ database.layouts, layout.2 ≠ [] ∧ ∀ column ∈ layout.2, column.Worded

variable {database : Database} {schema : Schema} {count : Nat}

/-- A table that is created has such columns. -/
theorem Worded.create (worded : database.Worded) (name : String) : (database.create name).Worded where
  tables := by
    intro table member
    rcases List.mem_append.1 member with known | new
    · exact worded.tables table known
    · rw [List.mem_singleton.1 new]
      cases found : database.layouts.lookup name with
      | none =>
        refine ⟨List.cons_ne_nil _ _, fun column held => ?_⟩
        rw [List.mem_singleton.1 held]
        exact ⟨⟨_, rfl⟩, _, rfl⟩
      | some columns =>
        obtain ⟨front, back, split, _⟩ := List.lookup_eq_some_iff.1 found
        exact worded.layouts (name, columns) (by simp [split])
  layouts := worded.layouts

/-- The catalog of such tables can be read, and tells tables that are distinct. -/
theorem Worded.readable (worded : database.Worded) :
    ∃ schema, database.Tells schema ∧ schema.Distinct := by
  have described : ∀ entry ∈ database.described, entry.2.Worded := by
    rintro ⟨name, column⟩ inside
    obtain ⟨head, listed, here⟩ := List.mem_flatMap.1 inside
    obtain ⟨other, held, same⟩ := List.mem_map.1 here
    cases same
    obtain ⟨table, known, rfl⟩ := List.mem_map.1 ((sort_perm _ _).mem_iff.1 listed)
    exact (worded.tables table known).2 column held
  obtain ⟨schema, read, distinct⟩ := Bench.foldlM_addRow_distinct Schema.distinct_empty described
  refine ⟨schema, ⟨?_, distinct.named.disorder?⟩, distinct⟩
  rw [Bench.schemaOf, catalog_eq]
  exact read

/-- The tables are empty and have the names of the first numbers. -/
structure Numbered (database : Database) (count : Nat) : Prop where
  /-- The names. -/
  names : database.tables.map StoredTable.name = (List.range count).map Schema.tableName
  /-- No table has rows. -/
  empty : ∀ table ∈ database.tables, table.rows = []
  /-- Their columns are described by texts. -/
  worded : database.Worded

namespace Numbered

/-- Without tables there are none, and the catalog tells so. -/
theorem zero (nothing : database.tables = [])
    (layouts : ∀ layout ∈ database.layouts, layout.2 ≠ [] ∧ ∀ column ∈ layout.2, column.Worded) :
    database.Numbered 0 ∧ database.Tells {} := by
  have none (table : StoredTable) : table ∉ database.tables := by
    rw [nothing]
    exact List.not_mem_nil
  have rows : database.catalog = [] := by
    rw [catalog, nothing]
    rfl
  constructor
  · exact ⟨by rw [nothing]; rfl, fun table member => absurd member (none table),
      fun table member => absurd member (none table), layouts⟩
  · refine ⟨?_, rfl⟩
    rw [rows]
    rfl

variable (numbered : database.Numbered count)

include numbered

/-- The tables with these names are known. -/
theorem knows_iff (name : String) :
    database.Knows name ↔ ∃ number < count, Schema.tableName number = name := by
  have listed : database.Knows name ↔ name ∈ database.tables.map StoredTable.name := by
    rw [Knows, table?, List.find?_isSome, List.mem_map]
    simp only [beq_iff_eq]
  rw [listed, numbered.names, List.mem_map]
  simp only [List.mem_range]

/-- The catalog tells them. -/
theorem lists (tells : database.Tells schema) : schema.Lists count := by
  obtain ⟨other, told, distinct⟩ := numbered.worded.readable
  obtain rfl : other = schema := Except.ok.inj (told.1.symm.trans tells.1)
  refine ⟨distinct, fun name => ?_⟩
  rw [Bench.mem_names_schemaOf tells.1, ← numbered.knows_iff, Knows, table?, List.find?_isSome]
  simp only [beq_iff_eq]
  constructor
  · rintro ⟨table, known, named, _⟩
    exact ⟨table, known, named⟩
  · rintro ⟨table, known, named⟩
    exact ⟨table, known, named, (numbered.worded.tables table known).1⟩

/-- The table with the next number can be created. -/
theorem setUp {text : String} (created : Command.ofText text = .create (Schema.tableName count)) :
    ∃ later, database.setUp text = some later ∧ later.Numbered (count + 1) := by
  have unknown : ¬ database.Knows (Schema.tableName count) := by
    rw [numbered.knows_iff]
    rintro ⟨number, before, same⟩
    have equal := Schema.tableName_injective same
    omega
  refine ⟨database.create (Schema.tableName count), ?_, ?_, ?_, numbered.worded.create _⟩
  · unfold Database.setUp
    simp only [created, if_neg unknown]
  · rw [create, List.map_append, numbered.names, List.range_succ, List.map_append]
    rfl
  · intro table member
    rcases List.mem_append.1 member with known | new
    · exact numbered.empty table known
    · rw [List.mem_singleton.1 new]

end Numbered

end Database

end SerialCheck

import Mathlib.Data.List.Nodup
import Mathlib.Data.List.Perm.Subperm
import Mathlib.Order.Bounds.Defs
import SerialCheck.Proofs.Engine.Commands
import SerialCheck.Proofs.Setup.Legible

/-!
# The names of generated tables

A generated table gets the first name that is free. The names of different numbers are different
(`Schema.tableName_injective`), so where the first ones are taken the next one is free
(`Schema.Lists.freeName`). Whatever names are taken, a search without a bound (`Schema.Search`) ends after at
most one test more than there are tables, at the least number whose name is free (`Schema.freeName_least`). Rows of the catalog that describe columns by texts are read as tables that have
different names and columns (`Bench.foldlM_addRow_distinct`).
-/
namespace SerialCheck

namespace Schema

/-- The name of a generated table is a letter and the digits of its number. -/
theorem toList_tableName (number : Nat) : (tableName number).toList = 't' :: Nat.toDigits 10 number := by
  have name : tableName number = "t" ++ String.ofList (Nat.toDigits 10 number) := rfl
  have digits : (String.ofList (Nat.toDigits 10 number)).toList = Nat.toDigits 10 number :=
    String.toList_ofList
  rw [name, String.toList_append, digits]
  rfl

/-- Different numbers have different names. -/
theorem tableName_injective : Function.Injective tableName := by
  intro first second same
  have digits : Nat.toDigits 10 first = Nat.toDigits 10 second := by
    have chars := congrArg String.toList same
    rw [toList_tableName, toList_tableName, List.cons.injEq] at chars
    exact chars.2
  have read := congrArg (Nat.ofDigitChars 10 · 0) digits
  simpa [Nat.ofDigitChars_toDigits] using read

/-- The engine reads the name of a generated table to its end. -/
theorem isPlainName_tableName (number : Nat) : IsPlainName (tableName number) := by
  intro char inside
  rw [toList_tableName, List.mem_cons] at inside
  rcases inside with rfl | digit
  · decide
  · have known : char.isDigit = true := Nat.isDigit_of_mem_toDigits (by decide) (by decide) digit
    rw [Bool.and_eq_true, bne_iff_ne, bne_iff_ne]
    constructor <;>
    · rintro rfl
      exact absurd known (by decide)

/-- Where the names of the first tables are taken, the first free number is the next one. -/
theorem freeNumber_eq {schema : Schema} {count : Nat}
    (taken : ∀ number, schema.has (tableName number) = decide (number < count)) (steps start : Nat)
    (reached : start ≤ count) (enough : count < start + steps) :
    schema.freeNumber steps start = count := by
  induction steps generalizing start with
  | zero => omega
  | succ steps hypothesis =>
    rw [freeNumber, taken]
    by_cases before : start < count
    · rw [decide_eq_true before, if_pos rfl]
      exact hypothesis (start + 1) before (by omega)
    · rw [decide_eq_false before, if_neg Bool.false_ne_true]
      omega

/-- So the name of the next table is free. -/
theorem freeName_eq {schema : Schema} {count : Nat}
    (taken : ∀ number, schema.has (tableName number) = decide (number < count))
    (many : schema.tables.length = count) : schema.freeName = tableName count := by
  rw [freeName, freeNumber_eq taken _ 0 (Nat.zero_le _) (by omega)]

/-- Among one name more than there are tables some name is free. -/
theorem exists_free (schema : Schema) :
    ∃ number ≤ schema.tables.length, schema.has (tableName number) = false := by
  by_contra taken
  push Not at taken
  have known : (List.range (schema.tables.length + 1)).map tableName ⊆ schema.tables.map Table.name := by
    intro name listed
    obtain ⟨number, below, rfl⟩ := List.mem_map.1 listed
    have has : schema.has (tableName number) = true := by
      simpa using taken number (Nat.le_of_lt_succ (List.mem_range.1 below))
    rw [Schema.has, List.any_eq_true] at has
    obtain ⟨table, member, same⟩ := has
    rw [Bool.and_eq_true, beq_iff_eq] at same
    exact List.mem_map.2 ⟨table, member, same.2⟩
  have different : ((List.range (schema.tables.length + 1)).map tableName).Nodup :=
    List.nodup_range.map tableName_injective
  have short := (different.subperm known).length_le
  simp only [List.length_map, List.length_range] at short
  omega

/-- The unbounded search from a number on, with how many names it tests and the number that it finds. -/
inductive Search (schema : Schema) : (start tests found : Nat) → Prop
  /-- The name is free and ends the search. -/
  | free {start : Nat} (untaken : schema.has (tableName start) = false) : Search schema start 1 start
  /-- The name is taken, and the search goes on with the next number. -/
  | taken {start tests found : Nat} (used : schema.has (tableName start) = true)
      (rest : Search schema (start + 1) tests found) : Search schema start (tests + 1) found

/-- A name is free exactly if no table whose name is a text has it. -/
theorem has_eq_false_iff {schema : Schema} {name : String} :
    schema.has name = false ↔ ∀ table ∈ schema.tables, table.entry = none → table.name ≠ name := by
  simp [has]

namespace Search

variable {schema : Schema} {start tests found : Nat}

/-- The search only goes forward. -/
theorem start_le (search : schema.Search start tests found) : start ≤ found := by
  induction search with
  | free untaken => exact Nat.le_refl _
  | taken used rest hypothesis => exact Nat.le_of_succ_le hypothesis

/-- Each number from the first one to the one that is found is tested once. -/
theorem tests_eq (search : schema.Search start tests found) : start + tests = found + 1 := by
  induction search with
  | free untaken => rfl
  | taken used rest hypothesis => omega

/-- The search ends at a free name. -/
theorem untaken (search : schema.Search start tests found) : schema.has (tableName found) = false := by
  induction search with
  | free untaken => exact untaken
  | taken used rest hypothesis => exact hypothesis

/-- No free name is passed over. -/
theorem le_of_free (search : schema.Search start tests found) {number : Nat} (after : start ≤ number)
    (free : schema.has (tableName number) = false) : found ≤ number := by
  induction search with
  | free untaken => exact after
  | @taken start tests found used rest hypothesis =>
    have other : start ≠ number := by
      rintro rfl
      exact Bool.false_ne_true (free.symm.trans used)
    exact hypothesis (by omega)

/-- There is one search from a number on. -/
theorem unique {others other : Nat} (search : schema.Search start tests found)
    (again : schema.Search start others other) : others = tests ∧ other = found := by
  have same : other = found :=
    Nat.le_antisymm (again.le_of_free search.start_le search.untaken)
      (search.le_of_free again.start_le again.untaken)
  have first := search.tests_eq
  have second := again.tests_eq
  exact ⟨by omega, same⟩

/-- A search with as many steps as there are tests, or more, finds the same number. -/
theorem freeNumber_add (search : schema.Search start tests found) (more : Nat) :
    schema.freeNumber (tests + more) start = found := by
  induction search with
  | free untaken => rw [Nat.add_comm, freeNumber, untaken, if_neg Bool.false_ne_true]
  | taken used rest hypothesis => rwa [Nat.add_right_comm, freeNumber, used, if_pos rfl]

end Search

/-- The search ends if there is a free name from its start on. -/
theorem exists_search {schema : Schema} {start gap : Nat} (free : schema.has (tableName (start + gap)) = false) :
    ∃ tests found, schema.Search start tests found := by
  induction gap generalizing start with
  | zero => exact ⟨1, start, .free free⟩
  | succ gap hypothesis =>
    cases here : schema.has (tableName start) with
    | false => exact ⟨1, start, .free here⟩
    | true =>
      rw [← Nat.succ_add_eq_add_succ] at free
      obtain ⟨tests, found, rest⟩ := hypothesis free
      exact ⟨tests + 1, found, .taken here rest⟩

/-- So the search for the name of a new table ends, and the bound on its steps is not reached. -/
theorem search_freeName (schema : Schema) :
    ∃ least ≤ schema.tables.length, schema.Search 0 (least + 1) least ∧ schema.freeName = tableName least := by
  obtain ⟨number, within, free⟩ := schema.exists_free
  obtain ⟨tests, least, search⟩ := exists_search (by rwa [← Nat.zero_add number] at free)
  obtain rfl : tests = least + 1 := by
    have all := search.tests_eq
    omega
  have short : least ≤ schema.tables.length := (search.le_of_free number.zero_le free).trans within
  obtain ⟨more, enough⟩ := Nat.exists_eq_add_of_le (Nat.add_le_add_right short 1)
  exact ⟨least, short, search, by rw [freeName, enough, search.freeNumber_add]⟩

/-- So no table has the name of the next one. -/
theorem has_freeName (schema : Schema) : schema.has schema.freeName = false := by
  obtain ⟨least, -, search, name⟩ := schema.search_freeName
  rw [name]
  exact search.untaken

/-- The search for the name of a new table ends, whatever names the tables have: it finds one number after
as many tests as there are numbers up to it, which are at most as many as the tables and one more. So the bound
on the steps does not show. The name is a letter with the decimal digits of the least number for which no table
has that name. -/
theorem freeName_least (schema : Schema) :
    ∃ least ≤ schema.tables.length,
      (∀ tests found, schema.Search 0 tests found ↔ tests = least + 1 ∧ found = least) ∧
        (∀ more, schema.freeNumber (least + 1 + more) 0 = least) ∧
        IsLeast
          {number : Nat |
            ∀ table ∈ schema.tables, table.entry = none → table.name ≠ "t" ++ toString number} least ∧
        schema.freeName = "t" ++ toString least := by
  obtain ⟨least, short, search, name⟩ := schema.search_freeName
  refine ⟨least, short, fun tests found => ?_, search.freeNumber_add, ?_, name⟩
  · constructor
    · exact search.unique
    · rintro ⟨rfl, rfl⟩
      exact search
  · constructor
    · exact has_eq_false_iff.1 search.untaken
    · intro other unused
      exact search.le_of_free other.zero_le (has_eq_false_iff.2 unused)

/-- Gaps are filled, and a zero before the digits makes another name. -/
example : freeName ⟨[⟨"t0", [], none⟩, ⟨"t3", [], none⟩, ⟨"t01", [], none⟩, ⟨"x", [], none⟩]⟩ = "t1" := by
  decide +kernel

/-- The tables have different names, which are texts like those of their columns, and each has a column. -/
structure Distinct (schema : Schema) : Prop where
  /-- The names of the tables are texts. -/
  named : schema.Named
  /-- They are different. -/
  different : (schema.tables.map Table.name).Nodup
  /-- Each table has a column. -/
  columns : ∀ table ∈ schema.tables, table.columns ≠ []
  /-- The names of the columns are texts. -/
  worded : ∀ table ∈ schema.tables, ∀ column ∈ table.columns, column.entry = none

theorem distinct_empty : Distinct {} := ⟨nofun, List.nodup_nil, nofun, nofun⟩

/-- A column is added to the table of that name, and else the table is. -/
theorem addColumn_cases {schema : Schema} (named : schema.Named) (name : String) (column : Column) :
    (name ∈ schema.tables.map Table.name ∧ ∃ change : Table → Table,
        (∀ table, (change table).name = table.name ∧
          ((change table).columns = table.columns ∨ (change table).columns = table.columns ++ [column])) ∧
        (schema.addColumn (.text name) column).tables = schema.tables.map change) ∨
      (name ∉ schema.tables.map Table.name ∧
        (schema.addColumn (.text name) column).tables = schema.tables ++ [⟨name, [column], none⟩]) := by
  have present : (schema.tables.any fun table => table.key.same (.text name)) = true ↔
      name ∈ schema.tables.map Table.name := by
    rw [List.any_eq_true, List.mem_map]
    refine exists_congr fun table => and_congr_right fun member => ?_
    simp [Table.key, named table member, Value.same, Value.equal, Except.toOption]
  unfold addColumn
  split
  next known =>
    refine .inl ⟨present.1 known, _, fun table => ?_, rfl⟩
    split
    · exact ⟨rfl, .inr rfl⟩
    · exact ⟨rfl, .inl rfl⟩
  next unknown => exact .inr ⟨mt present.2 unknown, rfl⟩

/-- A column that is added keeps the tables distinct. -/
theorem Distinct.addColumn {schema : Schema} (distinct : schema.Distinct) (name : String) {column : Column}
    (worded : column.entry = none) : (schema.addColumn (.text name) column).Distinct := by
  have named := (addColumn_text distinct.named name column).1
  rcases addColumn_cases distinct.named name column with
    ⟨_, change, changed, tables⟩ | ⟨unknown, tables⟩
  · refine ⟨named, ?_, ?_, ?_⟩ <;> rw [tables]
    · have names : (schema.tables.map change).map Table.name = schema.tables.map Table.name := by
        rw [List.map_map]
        exact List.map_congr_left fun table _ => (changed table).1
      rw [names]
      exact distinct.different
    · intro table member none
      obtain ⟨other, listed, rfl⟩ := List.mem_map.1 member
      apply distinct.columns other listed
      rcases (changed other).2 with same | more
      · rw [← same, none]
      · rw [none] at more
        exact absurd more.symm (List.append_ne_nil_of_right_ne_nil _ (List.cons_ne_nil _ _))
    · intro table member other held
      obtain ⟨known, listed, rfl⟩ := List.mem_map.1 member
      rcases (changed known).2 with same | more
      · exact distinct.worded known listed other (same ▸ held)
      · rw [more] at held
        rcases List.mem_append.1 held with before | new
        · exact distinct.worded known listed other before
        · rw [List.mem_singleton.1 new]
          exact worded
  · refine ⟨named, ?_, ?_, ?_⟩ <;> rw [tables]
    · rw [List.map_append, List.nodup_append_comm]
      exact List.nodup_cons.2 ⟨unknown, distinct.different⟩
    · intro table member
      rcases List.mem_append.1 member with known | new
      · exact distinct.columns table known
      · rw [List.mem_singleton.1 new]
        exact List.cons_ne_nil _ _
    · intro table member other held
      rcases List.mem_append.1 member with known | new
      · exact distinct.worded table known other held
      · rw [List.mem_singleton.1 new, List.mem_singleton] at held
        rw [held]
        exact worded

/-- The tables are distinct and have the names of the first numbers. -/
structure Lists (count : Nat) (schema : Schema) : Prop where
  /-- They are distinct. -/
  distinct : schema.Distinct
  /-- These are their names. -/
  names : ∀ name, name ∈ schema.names ↔ ∃ number < count, tableName number = name

namespace Lists

variable {count : Nat} {schema : Schema} (lists : schema.Lists count)

include lists

/-- The names are the first ones, in some order. -/
theorem perm : (schema.tables.map Table.name).Perm ((List.range count).map tableName) := by
  rw [List.perm_ext_iff_of_nodup lists.distinct.different
    (List.Nodup.map tableName_injective List.nodup_range)]
  intro name
  have listed := lists.names name
  rw [mem_names] at listed
  simpa using listed

/-- No name stands twice. -/
theorem nodup_names : schema.names.Nodup :=
  ((sort_perm _ _).map Table.name).nodup_iff.2 lists.distinct.different

/-- There are as many tables. -/
theorem length : schema.tables.length = count := by
  have many := lists.perm.length_eq
  simpa using many

/-- The name of the next number is free. -/
theorem freeName : schema.freeName = tableName count := by
  refine freeName_eq (fun number => ?_) lists.length
  rw [Bool.eq_iff_iff, decide_eq_true_iff, has, List.any_eq_true]
  constructor
  · rintro ⟨table, member, found⟩
    rw [Bool.and_eq_true, beq_iff_eq] at found
    obtain ⟨other, within, same⟩ := (lists.names table.name).1 (mem_names.2 ⟨table, member, rfl⟩)
    rwa [← tableName_injective (same.trans found.2)]
  · intro within
    obtain ⟨table, member, name⟩ := mem_names.1 ((lists.names (tableName number)).2 ⟨number, within, rfl⟩)
    refine ⟨table, member, ?_⟩
    rw [lists.distinct.named table member, name]
    simp

end Lists

end Schema

/-- The name and the type of the column are texts. -/
structure CatalogColumn.Worded (column : CatalogColumn) : Prop where
  /-- The name. -/
  name : ∃ name, column.name = .text name
  /-- The type. -/
  typed : column.Typed

namespace Bench

/-- A row that describes a worded column is read, and keeps the tables distinct. -/
theorem addRow_distinct {schema : Schema} {entry : String × CatalogColumn} (distinct : schema.Distinct)
    (worded : entry.2.Worded) :
    ∃ after, addRow schema (catalogRow entry) = .ok after ∧ after.Distinct := by
  obtain ⟨table, name, dataType, nullable⟩ := entry
  obtain ⟨⟨name, rfl⟩, type, rfl⟩ := worded
  have fit : (Value.text table).unfit? = none := rfl
  let column : Column := { name, dataType := .ofCatalog type, nullable := nullable.same (.text "YES") }
  refine ⟨schema.addColumn (.text table) column, ?_, distinct.addColumn table rfl⟩
  simp only [addRow, catalogRow, Value.members, fit, columnOf, catalogType, bind, Except.bind, pure,
    Except.pure, column]

/-- Rows that describe worded columns are read. -/
theorem foldlM_addRow_distinct {entries : List (String × CatalogColumn)} {schema : Schema}
    (distinct : schema.Distinct) (worded : ∀ entry ∈ entries, entry.2.Worded) :
    ∃ after, (entries.map catalogRow).foldlM addRow schema = .ok after ∧ after.Distinct := by
  induction entries generalizing schema with
  | nil => exact ⟨schema, rfl, distinct⟩
  | cons entry rest hypothesis =>
    obtain ⟨between, added, still⟩ := addRow_distinct distinct (worded entry List.mem_cons_self)
    rw [List.map_cons, List.foldlM_cons, added]
    exact hypothesis still fun other inside => worded other (List.mem_cons_of_mem _ inside)

end Bench

end SerialCheck

import SerialCheck.Proofs.Setup.Administered

/-!
# Restoring the database

A setup log of statements that create tables or add rows makes the same tables of every database whose
tables the catalog lists and the engine can drop by their names. So once the database has been
restored it can be restored again, whatever rows have been added since (`reproduce_returns`).
-/
namespace SerialCheck

/-- The text creates a table or adds a row. -/
def IsSetup (text : String) : Prop :=
  (∃ name, Command.ofText text = .create name) ∨ ∃ name, Command.ofText text = .write name

namespace Database

/-- The database after a setup statement, if it succeeds. -/
def setUp (database : Database) (text : String) : Option Database :=
  match Command.ofText text with
  | .create name => if database.Knows name then none else some (database.create name)
  | .write name =>
    if database.Knows name then some (database.add name (.row [.text text])) else none
  | _ => none

/-- The database after setup statements, if all succeed. -/
def replay (database : Database) : List Query → Option Database
  | [] => some database
  | query :: queries =>
    match query.text with
    | .text text => (database.setUp text).bind (·.replay queries)
    | _ => none

/-- The database without tables. -/
def emptied (database : Database) : Database := { layouts := database.layouts }

/-- The catalog lists every table, and each can be dropped by its name, those to come included. -/
structure Orderly (database : Database) : Prop where
  /-- Every table has a column and a plain name. -/
  tables : ∀ table ∈ database.tables, table.columns ≠ [] ∧ IsPlainName table.name
  /-- Tables to come have a column. -/
  layouts : ∀ layout ∈ database.layouts, layout.2 ≠ []

variable {database other later : Database} {text name : String}

theorem Orderly.of_heads (orderly : database.Orderly)
    (heads : other.tables.map StoredTable.head = database.tables.map StoredTable.head)
    (layouts : other.layouts = database.layouts) : other.Orderly where
  tables := by
    intro table member
    have listed : table.head ∈ database.tables.map StoredTable.head :=
      heads ▸ List.mem_map_of_mem member
    obtain ⟨known, inside, same⟩ := List.mem_map.1 listed
    have both := orderly.tables known inside
    rw [StoredTable.head, StoredTable.head, Prod.mk.injEq] at same
    rw [← same.1, ← same.2]
    exact both
  layouts := layouts ▸ orderly.layouts

/-- A created table has a column. -/
theorem Orderly.create (orderly : database.Orderly) (plain : IsPlainName name) :
    (database.create name).Orderly where
  tables := by
    intro table member
    rcases List.mem_append.1 member with known | new
    · exact orderly.tables table known
    · rw [List.mem_singleton.1 new]
      refine ⟨?_, plain⟩
      show (database.layouts.lookup name).getD defaultLayout ≠ []
      cases found : database.layouts.lookup name with
      | none => exact List.cons_ne_nil _ _
      | some columns =>
        obtain ⟨front, back, all, _⟩ := List.lookup_eq_some_iff.1 found
        exact orderly.layouts (name, columns) (all ▸ by simp)
  layouts := orderly.layouts

/-- What the engine reads as a name is plain, so setup statements keep a database orderly. -/
theorem Orderly.setUp (orderly : database.Orderly) (done : database.setUp text = some later) :
    later.Orderly := by
  unfold Database.setUp at done
  split at done
  next name created =>
    split at done
    · cases done
    · cases done
      exact orderly.create (Command.isPlainName_of_create created)
  next name written =>
    split at done
    next known =>
      cases done
      obtain ⟨heads, layouts⟩ := columns_add known (.row [.text text])
      exact orderly.of_heads heads layouts
    · cases done
  · cases done

theorem Orderly.replay {queries : List Query} (orderly : database.Orderly)
    (done : database.replay queries = some later) : later.Orderly := by
  induction queries generalizing database with
  | nil =>
    cases done
    exact orderly
  | cons query rest hypothesis =>
    unfold Database.replay at done
    split at done
    next text said =>
      obtain ⟨between, first, further⟩ := Option.bind_eq_some_iff.1 done
      exact hypothesis (orderly.setUp first) further
    · cases done

/-- Setup statements make the same of matching databases. -/
theorem Matches.setUp (same : database.Matches other) (done : database.setUp text = some later) :
    ∃ further, other.setUp text = some further ∧ later.Matches further := by
  unfold Database.setUp at done ⊢
  split at done
  next name created =>
    split at done
    · cases done
    next unknown =>
      cases done
      refine ⟨_, if_neg fun known => unknown ((same.knows_iff name).1 known), ?_, same.layouts⟩
      simp only [Database.create, same.tables, same.layouts]
  next name written =>
    split at done
    next known =>
      cases done
      have there : other.Knows name := (same.knows_iff name).2 known
      refine ⟨_, if_pos there, ?_, ?_⟩
      · rw [Database.add, Database.add, if_neg (mt isNone_iff.1 (not_not_intro there)),
          if_neg (mt isNone_iff.1 (not_not_intro known)), same.tables]
      · exact (columns_add there _).2.trans (same.layouts.trans (columns_add known _).2.symm)
    · cases done
  · cases done

theorem Matches.replay {queries : List Query} (same : database.Matches other)
    (done : database.replay queries = some later) :
    ∃ further, other.replay queries = some further ∧ later.Matches further := by
  induction queries generalizing database other with
  | nil =>
    cases done
    exact ⟨other, rfl, same⟩
  | cons query rest hypothesis =>
    unfold Database.replay at done ⊢
    split at done
    next text said =>
      obtain ⟨between, first, others⟩ := Option.bind_eq_some_iff.1 done
      obtain ⟨next, here, alike⟩ := same.setUp first
      obtain ⟨last, rest, ends⟩ := hypothesis alike others
      exact ⟨last, Option.bind_eq_some_iff.2 ⟨next, here, rest⟩, ends⟩
    · cases done

/-- Dropping tables leaves those with other names. -/
theorem foldl_drop (names : List String) (database : Database) :
    (names.foldl drop database).tables =
        database.tables.filter (fun table => !names.contains table.name) ∧
      (names.foldl drop database).layouts = database.layouts := by
  induction names generalizing database with
  | nil => simp
  | cons name rest hypothesis =>
    obtain ⟨tables, layouts⟩ := hypothesis (database.drop name)
    rw [List.foldl_cons]
    refine ⟨?_, layouts⟩
    rw [tables, drop, List.filter_filter]
    refine List.filter_congr fun table _ => ?_
    rw [List.contains_cons, Bool.not_or, Bool.and_comm]
    rfl

/-- A database whose tables are all dropped is as good as an empty one. -/
theorem matches_foldl_drop {names : List String}
    (all : ∀ table ∈ database.tables, table.name ∈ names) :
    database.emptied.Matches (names.foldl drop database) where
  tables := by
    rw [(foldl_drop names database).1]
    refine List.filter_eq_nil_iff.2 fun table member => ?_
    simp [all table member]
  layouts := (foldl_drop names database).2

end Database

/-- A setup statement either succeeds and changes the database as told, or it fails and changes
nothing. -/
theorem Engine.execute_setup {text : String} (setup : IsSetup text) (database : Database) :
    (∃ report, Engine.execute ⟨database, none⟩ text = (.error report, ⟨database, none⟩) ∧
        database.setUp text = none) ∨
      ∃ later, Engine.execute ⟨database, none⟩ text = (.ok none, ⟨later, none⟩) ∧
        database.setUp text = some later := by
  unfold Engine.execute Database.setUp
  rcases setup with ⟨name, created⟩ | ⟨name, written⟩
  · rw [created]
    by_cases known : database.Knows name
    · exact .inl ⟨_, if_pos known, if_pos known⟩
    · exact .inr ⟨_, if_neg known, if_neg known⟩
  · rw [written]
    show (∃ report, Engine.write ⟨database, none⟩ name text = _ ∧ _) ∨
      ∃ later, Engine.write ⟨database, none⟩ name text = _ ∧ _
    unfold Engine.write
    by_cases known : database.Knows name
    · have present := mt Database.isNone_iff.1 (not_not_intro known)
      exact .inr ⟨_, if_neg present, if_pos known⟩
    · exact .inl ⟨_, if_pos (Database.isNone_iff.2 known), if_neg known⟩

namespace Bench.Administered

open Bench

variable {bench : Bench} {admin : Session} {database later : Database}

/-- Every table is dropped that is asked for by a plain name. -/
theorem dropEach_returns {names : List String} (ready : bench.Administered admin database)
    (plain : ∀ name ∈ names, IsPlainName name) :
    ∃ after, (dropEach names).Returns bench () after ∧
      after.Administered admin (names.foldl Database.drop database) ∧ bench.Spares after admin := by
  induction names generalizing bench database with
  | nil => exact ⟨bench, Task.returns_pure.2 ⟨rfl, rfl⟩, ready, .refl bench admin⟩
  | cons name rest hypothesis =>
    have dropped : Engine.execute ⟨database, none⟩ (dropText name) =
        (.ok none, ⟨database.drop name, none⟩) := by
      rw [Engine.execute, Command.ofText_dropText (plain name List.mem_cons_self)]
      rfl
    obtain ⟨_, still, spared⟩ := ready.send dropped
    obtain ⟨after, returned, ends, spares⟩ :=
      hypothesis still fun other member => plain other (List.mem_cons_of_mem _ member)
    refine ⟨after, ?_, ends, spared.trans spares⟩
    rw [dropEach, ready.setup_returns dropped]
    exact returned

/-- Setup statements are replayed if they succeed. -/
theorem replayEach_returns {queries : List Query} (ready : bench.Administered admin database)
    (setup : ∀ query ∈ queries, ∃ text, query.text = .text text ∧ IsSetup text)
    (done : database.replay queries = some later) :
    ∃ after, (replayEach queries).Returns bench () after ∧ after.Administered admin later ∧
      bench.Spares after admin := by
  induction queries generalizing bench database with
  | nil =>
    cases done
    exact ⟨bench, Task.returns_pure.2 ⟨rfl, rfl⟩, ready, .refl bench admin⟩
  | cons query rest hypothesis =>
    obtain ⟨text, said, sets⟩ := setup query List.mem_cons_self
    simp only [Database.replay, said] at done
    obtain ⟨between, first, further⟩ := Option.bind_eq_some_iff.1 done
    rcases Engine.execute_setup sets database with ⟨_, _, failed⟩ | ⟨next, answered, made⟩
    · rw [failed] at first
      cases first
    · rw [made] at first
      cases first
      obtain ⟨_, still, spared⟩ := ready.send answered
      obtain ⟨after, returned, ends, spares⟩ :=
        hypothesis still (fun other member => setup other (List.mem_cons_of_mem _ member)) further
      refine ⟨after, ?_, ends, spared.trans spares⟩
      rw [replayEach, said, ready.setup_returns answered]
      exact returned

/-- Setup statements that were replayed succeed. -/
theorem exists_replay {queries : List Query} (ready : bench.Administered admin database)
    (setup : ∀ query ∈ queries, ∃ text, query.text = .text text ∧ IsSetup text) {after : Bench}
    (returned : (replayEach queries).Returns bench () after) :
    ∃ later, database.replay queries = some later := by
  induction queries generalizing bench database with
  | nil => exact ⟨database, rfl⟩
  | cons query rest hypothesis =>
    obtain ⟨text, said, sets⟩ := setup query List.mem_cons_self
    rcases Engine.execute_setup sets database with ⟨report, answered, _⟩ | ⟨next, answered, made⟩
    · rw [replayEach, said, ready.setup_returns answered] at returned
      exact (Task.returns_throw.1 returned).elim
    · rw [replayEach, said, ready.setup_returns answered] at returned
      obtain ⟨later, further⟩ := hypothesis (ready.send answered).2.1
        (fun other member => setup other (List.mem_cons_of_mem _ member)) returned
      exact ⟨later, by simp only [Database.replay, said, made, Option.bind_some, further]⟩

/-- A database whose catalog can be read is emptied, if it is orderly. -/
theorem dropTables_returns (ready : bench.Administered admin database) (orderly : database.Orderly)
    {known : Schema} (tells : database.Tells known) :
    ∃ after last, dropTables.Returns bench () after ∧ after.Administered admin last ∧
      database.emptied.Matches last ∧ bench.Spares after admin := by
  obtain ⟨read, spared⟩ := ready.afterReading known
  have listed : ∀ name, name ∈ known.names ↔
      ∃ table ∈ database.tables, table.name = name ∧ table.columns ≠ [] :=
    mem_names_schemaOf tells.1
  have plain : ∀ name ∈ known.names, IsPlainName name := by
    intro name member
    obtain ⟨table, inside, rfl, _⟩ := (listed name).1 member
    exact (orderly.tables table inside).2
  have all : ∀ table ∈ database.tables, table.name ∈ known.names := fun table inside =>
    (listed table.name).2 ⟨table, inside, rfl, (orderly.tables table inside).1⟩
  obtain ⟨dropped, returned, ends, spares⟩ := read.dropEach_returns plain
  refine ⟨{ dropped with schema := {} }, _, ?_, ends.recorded dropped.journal {},
    Database.matches_foldl_drop all, (spared.trans spares).recorded dropped.journal {}⟩
  simp only [dropTables, Task.returns_bind, ready.updateSchema_returns, Task.returns_get,
    Task.returns_modify]
  exact ⟨(), _, ⟨known, tells, rfl⟩, _, _, ⟨rfl, rfl⟩, (), dropped, returned, rfl⟩

end Bench.Administered

/-- The setup log makes the base of the database once that is emptied, and the base has the
schema. -/
structure Database.Restorable (database : Database) (log : List Query) (base : Database)
    (schema : Schema) : Prop where
  /-- The catalog can be read, so that the tables can be dropped. -/
  readable : ∃ known, database.Tells known
  /-- The setup statements succeed. -/
  replayed : database.emptied.replay log = some base
  /-- The catalog can be read afterwards. -/
  tells : base.Tells schema

namespace Bench.Administered

open Bench

variable {bench : Bench} {admin : Session} {database base : Database} {schema : Schema}

/-- A database that can be restored is restored: it has the tables of the base. -/
theorem reproduce_returns (ready : bench.Administered admin database) (orderly : database.Orderly)
    (setup : ∀ query ∈ bench.setupLog, ∃ text, query.text = .text text ∧ IsSetup text)
    (restorable : database.Restorable bench.setupLog base schema) :
    ∃ after last, reproduce.Returns bench () after ∧ after.Administered admin last ∧
      base.Matches last ∧ after.schema = schema ∧ bench.Spares after admin := by
  obtain ⟨known, tells⟩ := restorable.readable
  obtain ⟨dropped, empty, dropping, cleared, same, spared⟩ := ready.dropTables_returns orderly tells
  obtain ⟨last, replayed, matching⟩ := same.replay restorable.replayed
  obtain ⟨filled, replaying, made, kept⟩ := cleared.replayEach_returns setup replayed
  have told : last.Tells schema := by
    rw [Database.Tells, matching.catalog_eq]
    exact restorable.tells
  obtain ⟨read, spares⟩ := made.afterReading schema
  refine ⟨filled.afterReading admin schema, last, ?_, read, matching, rfl,
    (spared.trans kept).trans spares⟩
  simp only [reproduce, Task.returns_bind, Task.returns_get]
  refine ⟨(), dropped, dropping, _, _, ⟨rfl, rfl⟩, (), filled, ?_,
    made.updateSchema_returns.2 ⟨schema, told, rfl⟩⟩
  rw [spared.setupLog]
  exact replaying

/-- A database that was restored could be restored. -/
theorem exists_restorable (ready : bench.Administered admin database) (orderly : database.Orderly)
    (setup : ∀ query ∈ bench.setupLog, ∃ text, query.text = .text text ∧ IsSetup text)
    {after : Bench} (returned : reproduce.Returns bench () after) :
    ∃ base schema, database.Restorable bench.setupLog base schema := by
  simp only [reproduce, Task.returns_bind, Task.returns_get] at returned
  obtain ⟨_, dropped, dropping, _, _, ⟨rfl, rfl⟩, _, filled, replaying, reading⟩ := returned
  have readable : ∃ known, database.Tells known := by
    simp only [dropTables, Task.returns_bind, ready.updateSchema_returns] at dropping
    obtain ⟨_, _, ⟨known, tells, _⟩, _⟩ := dropping
    exact ⟨known, tells⟩
  obtain ⟨known, tells⟩ := readable
  obtain ⟨_, empty, again, cleared, same, spared⟩ := ready.dropTables_returns orderly tells
  obtain ⟨_, rfl⟩ := again.unique dropping
  rw [spared.setupLog] at replaying
  obtain ⟨last, replayed⟩ := cleared.exists_replay setup replaying
  obtain ⟨_, replayedAgain, made, _⟩ := cleared.replayEach_returns setup replayed
  obtain ⟨_, rfl⟩ := replayedAgain.unique replaying
  obtain ⟨schema, told, _⟩ := made.updateSchema_returns.1 reading
  obtain ⟨base, fromEmpty, matching⟩ := same.symm.replay replayed
  refine ⟨base, schema, ⟨known, tells⟩, fromEmpty, ?_⟩
  rw [Database.Tells, matching.catalog_eq]
  exact told

end Bench.Administered

namespace Database

variable {database base : Database} {log : List Query} {schema : Schema}

/-- Setup statements leave the columns of tables to come. -/
theorem layouts_replay (done : database.replay log = some base) : base.layouts = database.layouts := by
  induction log generalizing database with
  | nil =>
    cases done
    rfl
  | cons query rest hypothesis =>
    unfold replay at done
    split at done
    next text said =>
      obtain ⟨between, first, further⟩ := Option.bind_eq_some_iff.1 done
      have kept : between.layouts = database.layouts := by
        unfold setUp at first
        split at first
        · split at first
          · cases first
          · cases first
            rfl
        · split at first
          next known =>
            cases first
            exact (columns_add known _).2
          · cases first
        · cases first
      exact (hypothesis further).trans kept
    · cases done

/-- The base is orderly. -/
theorem Restorable.orderly (restorable : database.Restorable log base schema)
    (orderly : database.Orderly) : base.Orderly := by
  refine Orderly.replay ?_ restorable.replayed
  exact ⟨by simp [emptied], orderly.layouts⟩

/-- The setup statements make the base of the base itself, once that is emptied. -/
theorem Restorable.replayed_base (restorable : database.Restorable log base schema) :
    base.emptied.replay log = some base := by
  have same : base.emptied = database.emptied := by
    rw [emptied, emptied, layouts_replay restorable.replayed]
    rfl
  rw [same]
  exact restorable.replayed

end Database

end SerialCheck

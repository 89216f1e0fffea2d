import SerialCheck.Proofs.Setup.Catalog

/-!
# Engines that cannot be told apart

Two engines are alike if they have the same tables and their open transactions see the same rows of
them. Rows that went astray are all in which they may differ. No command of a transaction tells alike engines
apart, and none but one that creates or drops a table has them differ in the columns of tables.
-/
namespace SerialCheck

namespace Database

variable {database first second : Database} {name : String}

/-- A row for an unknown table changes no table. -/
theorem add_unknown (unknown : ¬ database.Knows name) (row : Value) :
    database.Matches (database.add name row) := by
  rw [add, if_pos (isNone_iff.2 unknown)]
  exact ⟨rfl, rfl⟩

/-- A row is added to matching databases alike. -/
theorem Matches.add (same : first.Matches second) (name : String) (row : Value) :
    (first.add name row).Matches (second.add name row) := by
  by_cases known : first.Knows name
  · have there : second.Knows name := (same.knows_iff name).2 known
    refine ⟨?_, (columns_add there row).2.trans (same.layouts.trans (columns_add known row).2.symm)⟩
    rw [Database.add, Database.add, if_neg (mt isNone_iff.1 (not_not_intro there)),
      if_neg (mt isNone_iff.1 (not_not_intro known)), same.tables]
  · have missing : ¬ second.Knows name := mt (same.knows_iff name).1 known
    exact (add_unknown known row).symm.trans (same.trans (add_unknown missing row))

theorem Matches.adding (same : first.Matches second) (rows : TableRows) :
    (first.adding rows).Matches (second.adding rows) := by
  induction rows generalizing first second with
  | nil => exact same
  | cons entry rows hypothesis => exact hypothesis (same.add entry.1 entry.2)

theorem Matches.create (same : first.Matches second) (name : String) :
    (first.create name).Matches (second.create name) where
  tables := by simp only [Database.create, same.tables, same.layouts]
  layouts := same.layouts

theorem Matches.drop (same : first.Matches second) (name : String) :
    (first.drop name).Matches (second.drop name) where
  tables := by simp only [Database.drop, same.tables]
  layouts := same.layouts

/-- The databases have tables of the same names and columns, and create tables alike. -/
structure Outlines (database other : Database) : Prop where
  /-- The names and columns. -/
  heads : other.tables.map StoredTable.head = database.tables.map StoredTable.head
  /-- The columns of tables to come. -/
  layouts : other.layouts = database.layouts

theorem Matches.outlines (same : first.Matches second) : first.Outlines second :=
  ⟨by rw [same.tables], same.layouts⟩

theorem Outlines.trans {third : Database} (one : first.Outlines second)
    (two : second.Outlines third) : first.Outlines third :=
  ⟨two.heads.trans one.heads, two.layouts.trans one.layouts⟩

/-- Rows are no part of the outlines of a database. -/
theorem outlines_adding (database : Database) (rows : TableRows) :
    database.Outlines (database.adding rows) := by
  induction rows generalizing database with
  | nil => exact ⟨rfl, rfl⟩
  | cons entry rows hypothesis =>
    refine Outlines.trans ?_ (hypothesis (database.add entry.1 entry.2))
    by_cases known : database.Knows entry.1
    · obtain ⟨heads, layouts⟩ := columns_add known entry.2
      exact ⟨heads, layouts⟩
    · exact (add_unknown known entry.2).outlines

end Database

/-- The open transactions have added the same rows, and see the same rows of the tables of a
database. -/
structure Work.Alike (database : Database) (first second : Work) : Prop where
  /-- The rows that were added. -/
  pending : second.pending = first.pending
  /-- Both have taken a snapshot, or none has. -/
  taken : second.snapshot.isSome = first.snapshot.isSome
  /-- The snapshots have the same rows. -/
  rows : ∀ name, database.Knows name →
    (second.snapshot.getD []).lookup name = (first.snapshot.getD []).lookup name

/-- No command of a transaction tells the engines apart. -/
structure Engine.Alike (first second : Engine) : Prop where
  /-- The tables are the same. -/
  tables : first.database.Matches second.database
  /-- The open transactions are alike, if there are any. -/
  work : (first.work = none ∧ second.work = none) ∨
    ∃ mine yours, first.work = some mine ∧ second.work = some yours ∧
      mine.Alike first.database yours

/-- The command neither creates nor drops a table. -/
def Command.KeepsTables (command : Command) : Prop :=
  (∀ name, command ≠ .create name) ∧ ∀ name, command ≠ .drop name

theorem Command.keepsTables_read (name : String) : (Command.read name).KeepsTables := by
  simp [KeepsTables]

theorem Command.keepsTables_rollback : Command.rollback.KeepsTables := by
  simp [KeepsTables]

namespace Work.Alike

variable {database first second : Database} {mine yours : Work}

/-- Snapshots that are taken of matching databases are alike. -/
theorem withSnapshot (alike : mine.Alike first yours) (same : first.Matches second) :
    (mine.withSnapshot first).Alike first (yours.withSnapshot second) where
  pending := alike.pending
  taken := rfl
  rows := by
    intro name known
    have rows := alike.rows name known
    have taken := alike.taken
    simp only [Work.withSnapshot, Option.getD_some]
    cases held : mine.snapshot with
    | some snapshot =>
      obtain ⟨other, theirs⟩ := Option.isSome_iff_exists.1 (taken.trans (by rw [held]; rfl))
      rw [held, theirs] at rows
      rw [theirs]
      exact rows
    | none =>
      have theirs : yours.snapshot = none := by
        rw [← Option.isNone_iff_eq_none, ← Option.not_isSome, taken, held]
        rfl
      obtain ⟨table, found⟩ := Option.isSome_iff_exists.1 known
      have there := (same.table?_eq name).trans found
      rw [theirs]
      exact (Database.lookup_snapshot there).trans (Database.lookup_snapshot found).symm

/-- The same rows of a table are seen. -/
theorem visible_eq (alike : mine.Alike database yours) {name : String} (known : database.Knows name) :
    yours.visible name = mine.visible name := by
  rw [visible, visible, alike.rows name known, alike.pending]

/-- A row is added. -/
theorem adding (alike : mine.Alike database yours) (entry : String × Value) :
    Work.Alike database { mine with pending := mine.pending ++ [entry] }
      { yours with pending := yours.pending ++ [entry] } where
  pending := by rw [alike.pending]
  taken := alike.taken
  rows := alike.rows

end Work.Alike

namespace Engine

variable {first second engine : Engine} {text : String} {command : Command}

/-- Without open transactions engines are alike if their tables are the same. -/
theorem alike_of_idle (tables : first.database.Matches second.database) (one : first.work = none)
    (two : second.work = none) : first.Alike second := ⟨tables, .inl ⟨one, two⟩⟩

/-- If one of alike engines has no open transaction, neither has the other one. -/
theorem Alike.idle (alike : first.Alike second) (idle : first.work = none) : second.work = none := by
  rcases alike.work with ⟨_, none⟩ | ⟨mine, _, held, _⟩
  · exact none
  · rw [idle] at held
    cases held

/-- Alike engines answer a command alike and are alike afterwards. Tables may be created and dropped as long
as there is no open transaction. -/
theorem Alike.perform (alike : first.Alike second)
    (still : first.work = none ∨ command.KeepsTables) :
    (second.perform text command).1 = (first.perform text command).1 ∧
      (first.perform text command).2.Alike (second.perform text command).2 := by
  obtain ⟨database, work⟩ := first
  obtain ⟨other, others⟩ := second
  have tables : database.Matches other := alike.tables
  cases command with
  | catalog => exact ⟨by simp only [Engine.perform, tables.catalog_eq], alike⟩
  | create name =>
    simp only [Engine.perform, tables.table?_eq]
    split
    · exact ⟨rfl, alike⟩
    · rcases still with idle | keeps
      · exact ⟨rfl, alike_of_idle (tables.create name) idle (alike.idle idle)⟩
      · exact (keeps.1 name rfl).elim
  | drop name =>
    rcases still with idle | keeps
    · exact ⟨rfl, alike_of_idle (tables.drop name) idle (alike.idle idle)⟩
    · exact (keeps.2 name rfl).elim
  | begin =>
    refine ⟨rfl, tables, .inr ⟨{}, {}, rfl, rfl, rfl, rfl, ?_⟩⟩
    exact fun _ _ => rfl
  | commit =>
    refine ⟨rfl, alike_of_idle ?_ rfl rfl⟩
    rcases alike.work with ⟨mine, yours⟩ | ⟨mine, yours, held, theirs, same⟩
    · dsimp only at mine yours
      rw [mine, yours]
      exact tables
    · dsimp only at held theirs
      rw [held, theirs]
      show (mine.commitTo database).Matches (yours.commitTo other)
      rw [Database.commitTo_eq_adding, Database.commitTo_eq_adding, same.pending]
      exact tables.adding mine.pending
  | rollback => exact ⟨rfl, alike_of_idle tables rfl rfl⟩
  | write name =>
    simp only [Engine.perform, Engine.write, tables.table?_eq]
    split
    · exact ⟨rfl, alike⟩
    · rcases alike.work with ⟨mine, yours⟩ | ⟨mine, yours, held, theirs, same⟩
      · dsimp only at mine yours
        subst mine yours
        exact ⟨rfl, alike_of_idle (tables.add name _) rfl rfl⟩
      · dsimp only at held theirs
        subst held theirs
        exact ⟨rfl, tables, .inr ⟨_, _, rfl, rfl, (same.withSnapshot tables).adding _⟩⟩
  | read name =>
    simp only [Engine.perform, Engine.read, tables.table?_eq]
    cases found : database.table? name with
    | none => exact ⟨rfl, alike⟩
    | some table =>
      have known : database.Knows name := by rw [Database.Knows, found]; rfl
      rcases alike.work with ⟨mine, yours⟩ | ⟨mine, yours, held, theirs, same⟩
      · dsimp only at mine yours
        subst mine yours
        exact ⟨rfl, alike⟩
      · dsimp only at held theirs
        subst held theirs
        have taken := same.withSnapshot tables
        refine ⟨?_, tables, .inr ⟨_, _, rfl, rfl, taken⟩⟩
        exact congrArg (fun rows => Except.ok (some rows)) (taken.visible_eq known)
  | other => exact ⟨rfl, alike⟩

/-- So they do on receiving a text. -/
theorem Alike.execute (alike : first.Alike second)
    (still : first.work = none ∨ (Command.ofText text).KeepsTables) :
    (second.execute text).1 = (first.execute text).1 ∧
      (first.execute text).2.Alike (second.execute text).2 := alike.perform still

/-- Only one command opens a transaction. -/
theorem execute_idle (idle : engine.work = none) (opens : Command.ofText text ≠ .begin) :
    (engine.execute text).2.work = none := by
  obtain ⟨database, work⟩ := engine
  subst idle
  unfold execute
  generalize Command.ofText text = command at opens
  cases command with
  | begin => exact (opens rfl).elim
  | create name =>
    simp only [perform]
    split <;> rfl
  | write name =>
    simp only [perform, Engine.write]
    split <;> rfl
  | read name =>
    simp only [perform, Engine.read]
    split <;> rfl
  | _ => rfl

/-- A command that neither creates nor drops a table leaves the outlines of the database. -/
theorem execute_outlines (engine : Engine) (keeps : (Command.ofText text).KeepsTables) :
    engine.database.Outlines (engine.execute text).2.database := by
  obtain ⟨database, work⟩ := engine
  have unchanged : database.Outlines database := ⟨rfl, rfl⟩
  unfold execute
  generalize Command.ofText text = command at keeps
  cases command with
  | create name => exact (keeps.1 name rfl).elim
  | drop name => exact (keeps.2 name rfl).elim
  | commit =>
    show database.Outlines ((work.getD {}).commitTo database)
    rw [Database.commitTo_eq_adding]
    exact Database.outlines_adding database _
  | write name =>
    simp only [perform, Engine.write]
    split
    · exact unchanged
    · cases work with
      | none => exact Database.outlines_adding database [(name, .row [.text text])]
      | some work => exact unchanged
  | read name =>
    simp only [perform, Engine.read]
    split
    · exact unchanged
    · cases work <;> exact unchanged
  | _ => exact unchanged

end Engine

end SerialCheck

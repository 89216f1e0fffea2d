import SerialCheck.Proofs.Reproduced.Generation

/-!
# The setup log restores the generated database

After a database has been generated, other sessions may do whatever they like to its rows. Restoring it
from the setup log returns, and makes the tables and rows that there were when it was generated; the setup
log holds exactly the setup statements that succeeded (`Bench.reproduce_generated`).
-/
namespace SerialCheck

/-- A bench on which a database can be generated and restored: the rules do the same to a text whenever it
is sent over a connection and end none, and concern neither the query for the catalog nor the statements
that drop tables; every table there is or will be has a column and a plain name. -/
structure Bench.Generable (bench : Bench) : Prop where
  /-- The rules do not change. -/
  steady : bench.server.Steady
  /-- No rule concerns the query for the catalog. -/
  catalog : bench.server.Leaves schemaQuery
  /-- No rule concerns the statements that drop tables. -/
  drops : ∀ name, bench.server.Leaves (Bench.dropText name)
  /-- The tables have columns and plain names. -/
  orderly : bench.server.database.Orderly
  /-- The session for setup statements, if there is one, has no transaction open. -/
  idle : bench.Idle

/-- The catalog of a database without tables tells none. -/
theorem Database.tells_of_empty {database : Database} (nothing : database.tables = []) :
    database.Tells {} := by
  rw [Tells, catalog, nothing]
  exact ⟨rfl, rfl⟩

namespace Bench

open SerialCheck.Task

variable {bench empty made later : Bench} {admin : Session}

/-- A generated database is logged from the emptied one on. -/
theorem Generable.generating (generable : bench.Generable)
    (generated : generateDatabase.Returns bench () made) :
    ∃ admin empty, dropTables.Returns bench () empty ∧ Generating admin empty made ∧
      empty.scene.Managed admin ∧
        empty.server.rules.map Rule.fresh = bench.server.rules.map Rule.fresh ∧
          empty.server.database.tables = [] := by
  simp only [generateDatabase, clearSetupLog, returns_bind, returns_get, returns_modify,
    returns_log] at generated
  obtain ⟨_, empty, dropped, _, _, rfl, _, _, ⟨rfl, rfl⟩, _, full, created, _, _, ⟨rfl, rfl⟩, _, filled,
    inserted, _, _, ⟨rfl, rfl⟩, rfl⟩ := generated
  obtain ⟨admin, emptied, stays, blank, nothing, _⟩ :=
    dropTables_emptied generable.steady generable.idle generable.orderly generable.catalog
      (fun table _ => generable.drops table.name) dropped
  have steady : empty.server.Steady := generable.steady.of_rules stays.rules
  have left : empty.server.Leaves schemaQuery := generable.catalog.of_rules stays.rules
  have begun : Generating admin empty { empty with setupLog := [] } := by
    refine ⟨[], ⟨⟨emptied.session, emptied.idle⟩, rfl, generable.orderly.of_emptied nothing, rfl,
      .apart .none rfl, rfl, fun other mirrors => ?_⟩, ?_⟩
    · exact ⟨other, returns_pure.2 ⟨rfl, rfl⟩, ⟨⟨mirrors.one.session, mirrors.one.idle⟩, mirrors.two,
        mirrors.steady, mirrors.rules, mirrors.tables⟩, rfl⟩
    · show Database.Tells empty.server.database empty.schema
      rw [blank]
      exact Database.tells_of_empty nothing.tables
  have grown := maintains_createAll steady left _ _ _ _ begun created
  have done := maintains_fillTables steady left _ _ _ _ _ grown inserted
  exact ⟨admin, empty, dropped, done.of_scene rfl, emptied, stays.rules, nothing.tables⟩

/-- Whatever other sessions have done, restoring the database makes the tables that are logged. -/
theorem Generating.reproduce (generating : Generating admin empty made)
    (emptied : empty.scene.Managed admin) (steady : empty.server.Steady)
    (left : empty.server.Leaves schemaQuery) (drops : ∀ name, empty.server.Leaves (dropText name))
    (nothing : empty.server.database.tables = []) (kept : later.admin = some admin)
    (log : later.setupLog = made.setupLog) (used : made.server.UsedApart admin later.server) :
    ∃ after, reproduce.Returns later () after ∧
      after.server.database.tables = made.server.database.tables ∧ after.schema = made.schema ∧
        after.setupLog = made.setupLog := by
  obtain ⟨attempts, logged, tells⟩ := generating
  obtain ⟨number, connection, uses, idle⟩ := logged.managed.idle
  have spared := used.spared (steady.of_rules logged.rules) uses
  have managed : later.scene.Managed admin :=
    ⟨kept, number, connection, ⟨uses.named, spared.present, uses.alive⟩, idle⟩
  have rules := spared.rules.trans logged.rules
  have still : later.server.Steady := steady.of_rules rules
  have tells' : later.server.database.Tells made.schema := by
    rw [Database.Tells, Database.catalog_congr spared.outlines.heads]
    exact tells
  obtain ⟨cleared, dropping, ready, clears, blank, bare⟩ :=
    dropTables_steady managed still
      (logged.orderly.of_heads spared.outlines.heads spared.outlines.layouts)
      (left.of_rules rules) (fun table _ => (drops table.name).of_rules rules) tells'
  have mirrors : empty.scene.Mirrors admin cleared.scene :=
    ⟨emptied, ready, steady, clears.rules.trans rules, bare.tables.trans nothing.symm,
      bare.layouts.trans (spared.outlines.layouts.trans logged.layouts)⟩
  have same : cleared.setupLog = made.setupLog := clears.setupLog.trans log
  obtain ⟨filled, replayed, mirrored, stays⟩ := logged.replays cleared mirrors
  have catalog : filled.server.Leaves schemaQuery :=
    (left.of_rules logged.rules).of_rules mirrored.rules
  have steady' : filled.server.Steady := mirrored.steady.of_rules mirrored.rules
  have tables : made.server.database.Matches filled.server.database := mirrored.tables
  have told : filled.server.database.Tells made.schema := by
    rw [Database.Tells, tables.catalog_eq]
    exact tells
  obtain ⟨_, _, _, unread⟩ :=
    mirrored.two.send_left steady' catalog (Engine.execute_schemaQuery _)
  refine ⟨filled.afterReading admin made.schema, ?_, ?_, rfl, stays.trans same⟩
  · refine reproduce_returns_iff.2 ⟨cleared, filled, dropping, same ▸ replayed, ?_⟩
    exact (updateSchema_steady mirrored.two steady' catalog).2 ⟨_, told, rfl⟩
  · exact (congrArg Database.tables unread).trans tables.tables

/-- A generated database can be restored from its setup log. The setup log holds the statements that
succeeded, of those that were sent since the database was emptied, in that order. Whatever other sessions
have done to its rows, restoring the database returns, and then the tables with their rows, the known tables
and the setup log are as they were when it was generated. -/
theorem reproduce_generated (generable : bench.Generable)
    (generated : generateDatabase.Returns bench () made) :
    ∃ admin, made.admin = some admin ∧
      (∃ empty attempts, dropTables.Returns bench () empty ∧
        empty.server.database.tables = [] ∧ Attempted admin empty attempts made ∧
          made.setupLog = succeeded attempts) ∧
      ∀ later : Bench, later.admin = some admin → later.setupLog = made.setupLog →
        made.server.UsedApart admin later.server →
          ∃ after, reproduce.Returns later () after ∧
            after.server.database.tables = made.server.database.tables ∧
              after.schema = made.schema ∧ after.setupLog = made.setupLog := by
  obtain ⟨admin, empty, dropped, generating, emptied, rules, nothing⟩ :=
    generable.generating generated
  refine ⟨admin, ?_, ?_, fun later kept log used => ?_⟩
  · obtain ⟨attempts, logged, _⟩ := generating
    exact logged.managed.session
  · obtain ⟨attempts, logged, _⟩ := generating
    exact ⟨empty, attempts, dropped, nothing, logged.attempted, logged.setupLog⟩
  · exact generating.reproduce emptied (generable.steady.of_rules rules)
      (generable.catalog.of_rules rules) (fun name => (generable.drops name).of_rules rules) nothing
      kept log used

end Bench

namespace Sample

/-- A rule by which texts that begin in a given way fail with a report. -/
def failing (front report : String) : Rule :=
  { refusing front with answer := .failure (.ok .statement) report false }

/-- A bench on which two tables are generated. The first definition of a table fails, and no row can be
added to the second table. -/
def unfilled : Bench where
  settings := { insertsPerTable := .integer 2 }
  randomness := ⟨.integer 0, ⟨0 :: List.replicate 18 secondOne, ⟨#[], 0⟩⟩, [], [], []⟩
  server := { rules :=
    [failing "CREATE TABLE t0(c0 BOOLEAN" "invalid input syntax",
      failing "INSERT INTO t1" "duplicate key value violates unique constraint"] }

/-- The rules concern no other texts. -/
theorem unfilled_leaves {text : String}
    (creation : Text.startsWith text "CREATE TABLE t0(c0 BOOLEAN" = false)
    (insertion : Text.startsWith text "INSERT INTO t1" = false) : unfilled.server.Leaves text := by
  intro rule member number
  rcases List.mem_pair.1 member with rfl | rfl
  · simp [Rule.concerns, Rule.fits, failing, refusing, Value.startsWith, creation]
    rfl
  · simp [Rule.concerns, Rule.fits, failing, refusing, Value.startsWith, insertion]
    rfl

/-- A database can be generated there. -/
theorem unfilled_generable : unfilled.Generable where
  steady := by
    intro rule member
    rcases List.mem_pair.1 member with rfl | rfl <;> exact ⟨rfl, rfl, fun _ _ same => by cases same⟩
  catalog := by
    -- the query is long, but its first character suffices
    obtain ⟨rest, cut⟩ := Command.schemaQuery_eq
    refine unfilled_leaves ?_ ?_ <;>
    · simp only [Text.startsWith, cut, String.toList_ofList]
      rfl
  drops := by
    intro name
    rw [show Bench.dropText name = "DROP TABLE IF EXISTS " ++ (name ++ " CASCADE") from
      String.append_assoc]
    refine unfilled_leaves ?_ ?_ <;>
    · rw [Text.startsWith_append]
      rfl
  orderly := ⟨nofun, nofun⟩
  idle := nofun

/-- A session for data statements. -/
def visitor : Session := ⟨some 2, "visitor"⟩

/-- The server after that session has been opened and has changed both tables. -/
def visited (server : Server) : Server :=
  (visitor.execute (.text "DELETE FROM t1")
    (visitor.execute (.text "UPDATE t0 SET c0 = 1")
      (Session.connect "bench" visitor.label (.integer 0) server).2).2).2

/-- The names of the tables of a server and how many rows they have. -/
def sizes (server : Server) : List (String × Nat) :=
  server.database.tables.map fun table => (table.name, table.rows.length)

/-- A database is generated; the bench is looked at. -/
def making : Task Bench := do
  Bench.generateDatabase
  get

/-- The first table gets two rows and the second one none; both change later. -/
theorem making_unfilled :
    ((making unfilled).1.toOption.map fun made =>
        (made.admin.map (·.connection), [sizes made.server, sizes (visited made.server)])) =
      some (some (some 1), [[("t0", 2), ("t1", 0)], [("t0", 3), ("t1", 1)]]) := by
  decide +kernel

/-- The other session leaves the session for setup statements alone. -/
theorem visited_usedApart {admin : Session} (connection : admin.connection = some 1) (server : Server) :
    server.UsedApart admin (visited server) := by
  have apart : visitor.connection ≠ admin.connection := by
    rw [connection]
    decide
  refine .sent (.sent (.opened .unused _ _ _) apart ?_) apart ?_
  · rw [show Command.ofText "UPDATE t0 SET c0 = 1" = .write "t0" by decide +kernel]
    exact ⟨nofun, nofun⟩
  · rw [show Command.ofText "DELETE FROM t1" = .write "t1" by decide +kernel]
    exact ⟨nofun, nofun⟩

end Sample

/-- A database for which two statements failed is restored after both of its tables have changed. -/
theorem Bench.reproduce_visited :
    ∃ made after, generateDatabase.Returns Sample.unfilled () made ∧
      Sample.sizes made.server = [("t0", 2), ("t1", 0)] ∧
      Sample.sizes (Sample.visited made.server) = [("t0", 3), ("t1", 1)] ∧
      reproduce.Returns { made with server := Sample.visited made.server } () after ∧
      after.server.database.tables = made.server.database.tables := by
  obtain ⟨made, last, returned, seen⟩ := Task.returns_of_map Sample.making_unfilled
  simp only [Prod.mk.injEq, List.cons.injEq, and_true] at seen
  obtain ⟨session, first, second⟩ := seen
  simp only [Sample.making, Task.returns_bind, Task.returns_get] at returned
  obtain ⟨_, _, generated, same, _⟩ := returned
  subst same
  obtain ⟨admin, known, _, restores⟩ := reproduce_generated Sample.unfilled_generable generated
  rw [known] at session
  obtain ⟨after, restored, tables, _⟩ :=
    restores { made with server := Sample.visited made.server } known rfl
      (Sample.visited_usedApart (Option.some.inj session) _)
  exact ⟨made, after, generated, first, second, restored, tables⟩

end SerialCheck

import SerialCheck.Proofs.Engine.Underway
import SerialCheck.Proofs.Interleaved.Course

/-!
# Between two runs

A bench is ready for a run if its database can be restored to the base (`Ready`). A run then begins
on the tables of the base (`Ready.prepare`); when it is over, the contents of the tables are read and the
bench is ready again (`Ready.finish`).
-/
namespace SerialCheck

/-- What stays the same from run to run. -/
structure Ground where
  /-- The session for setup statements. -/
  admin : Session
  /-- The settings. -/
  settings : Settings
  /-- The setup statements. -/
  log : List Query
  /-- The database that they make. -/
  base : Database
  /-- The schema of that database. -/
  schema : Schema

/-- The setup statements create tables or add rows, and the database that they make is orderly. -/
structure Ground.Sound (ground : Ground) : Prop where
  /-- The setup statements. -/
  setup : ∀ query ∈ ground.log, ∃ text, query.text = .text text ∧ IsSetup text
  /-- They make the database. -/
  replayed : ground.base.emptied.replay ground.log = some ground.base
  /-- The database. -/
  orderly : ground.base.Orderly
  /-- The catalog tells the schema. -/
  tells : ground.base.Tells ground.schema

/-- The tables of the schema are known and have plain names. -/
theorem Ground.Sound.plain {ground : Ground} (sound : ground.Sound) :
    ∀ name ∈ ground.schema.names, IsPlainName name ∧ ground.base.Knows name := by
  intro name member
  obtain ⟨table, known, rfl, _⟩ := (Bench.mem_names_schemaOf sound.tells.1 name).1 member
  refine ⟨(sound.orderly.tables table known).2, ?_⟩
  exact List.find?_isSome.2 ⟨table, known, beq_self_eq_true _⟩

/-- A database with the tables of the base, whatever rows they have, can be restored. -/
theorem Ground.Sound.restorable {ground : Ground} (sound : ground.Sound) {database : Database}
    (heads : database.tables.map StoredTable.head = ground.base.tables.map StoredTable.head)
    (layouts : database.layouts = ground.base.layouts) :
    database.Restorable ground.log ground.base ground.schema where
  readable := by
    refine ⟨ground.schema, ?_⟩
    rw [Database.Tells, Database.catalog_congr heads]
    exact sound.tells
  replayed := by
    rw [Database.emptied, layouts]
    exact sound.replayed
  tells := sound.tells

/-- A bench whose database can be restored to the base, with the sessions of a batch open. -/
structure Ready (ground : Ground) (batch : Batch) (bench : Bench) : Prop where
  /-- The database can be restored. -/
  restorable : ∃ database, bench.Administered ground.admin database ∧ database.Orderly ∧
    database.Restorable ground.log ground.base ground.schema
  /-- The setup statements. -/
  log : bench.setupLog = ground.log
  /-- The settings. -/
  settings : bench.settings = ground.settings
  /-- The sessions are open. -/
  sessions : ∀ transaction ∈ batch, ∃ number connection,
    transaction.session.Uses bench.server number connection

/-- A bench on which a run begins. -/
structure Begins (ground : Ground) (batch : Batch) (last : Database) (start : Bench) : Prop where
  /-- The database has the tables of the base. -/
  restored : ground.base.Matches last
  /-- No turn has been taken. -/
  underway : Underway start batch ground.admin last [] (fun _ => False) start
  /-- The session for setup statements. -/
  admin : start.admin = some ground.admin
  /-- The known tables are those of the base. -/
  schema : start.schema = ground.schema
  /-- The setup statements. -/
  log : start.setupLog = ground.log
  /-- The settings. -/
  settings : start.settings = ground.settings

namespace Ready

variable {ground : Ground} {batch : Batch} {bench start : Bench} {last : Database}
  {turns : List Turn} {active : OpenTransaction → Prop}

/-- The records of a bench do not matter. -/
theorem of_scene {other : Bench} (ready : Ready ground batch bench)
    (same : other.scene = bench.scene) : Ready ground batch other := by
  have server : other.server = bench.server := congrArg Scene.server same
  have admin : other.admin = bench.admin := congrArg Scene.admin same
  obtain ⟨database, managed, orderly, restorable⟩ := ready.restorable
  refine ⟨⟨database, ⟨admin.trans managed.session, ?_, ?_, ?_⟩, orderly, restorable⟩,
    (congrArg Scene.setupLog same).trans ready.log,
    (congrArg Scene.settings same).trans ready.settings, ?_⟩
  · rw [server]
    exact managed.calm
  · rw [server]
    exact managed.database
  · rw [server]
    exact managed.idle
  · rw [server]
    exact ready.sessions

/-- A run of a ready bench begins on the tables of the base. -/
theorem prepare (ready : Ready ground batch bench) (sound : ground.Sound)
    (apart : batch.Apart ground.admin) (strategy : Strategy) :
    ∃ start last, (Run.prepare batch strategy).Returns bench () start ∧
      Begins ground batch last start ∧ bench.Spares start ground.admin := by
  obtain ⟨database, managed, orderly, restorable⟩ := ready.restorable
  obtain ⟨restored, last, returned, fresh, same, schema, spares⟩ :=
    managed.reproduce_returns orderly (by rw [ready.log]; exact sound.setup)
      (by rw [ready.log]; exact restorable)
  refine ⟨_, last, Task.returns_bind.2 ⟨(), restored, returned, Task.returns_log.2 rfl⟩, ?_,
    spares.recorded _ _⟩
  refine ⟨same, ⟨⟨fresh.calm, fresh.database, fresh.idle, ?_⟩, rfl⟩, fresh.session, schema,
    spares.setupLog.trans ready.log, spares.settings.trans ready.settings⟩
  intro transaction member
  obtain ⟨number, connection, uses⟩ := ready.sessions transaction member
  exact ⟨number, connection, spares.others _ _ _ (apart.admin transaction member) uses, False.elim⟩

/-- When a run is over, the contents of the tables are read, and the bench is ready for the next
run. -/
theorem finish (begins : Begins ground batch last start) (sound : ground.Sound)
    (apart : batch.Apart ground.admin)
    (underway : Underway start batch ground.admin last turns active bench) :
    ∃ after, Bench.snapshot.Returns bench
        ((last.adding (committed last turns)).contents ground.schema.names) after ∧
      Ready ground batch after := by
  have managed := underway.administered begins.admin
  have known : ∀ entry ∈ committed last turns, last.Knows entry.1 :=
    fun _ member => knows_of_mem_committed member
  obtain ⟨heads, layouts⟩ := Database.columns_adding known
  have orderly : last.Orderly := sound.orderly.of_heads (by rw [begins.restored.tables])
    begins.restored.layouts
  have names : bench.schema = ground.schema :=
    (congrArg Scene.schema underway.scene).trans begins.schema
  have plain : ∀ name ∈ ground.schema.names,
      IsPlainName name ∧ (last.adding (committed last turns)).Knows name := by
    intro name member
    obtain ⟨simple, knows⟩ := sound.plain name member
    exact ⟨simple, (Database.knows_adding known name).2 ((begins.restored.knows_iff name).2 knows)⟩
  obtain ⟨after, returned, ends, spares⟩ := managed.contentsOf_returns plain
  refine ⟨after, ?_, ⟨_, ends, orderly.of_heads heads layouts, ?_⟩, ?_, ?_, ?_⟩
  · rw [Bench.snapshot, Task.returns_get_bind, names]
    exact returned
  · refine sound.restorable (heads.trans ?_) (layouts.trans begins.restored.layouts)
    rw [begins.restored.tables]
  · exact spares.setupLog.trans ((congrArg Scene.setupLog underway.scene).trans begins.log)
  · exact spares.settings.trans ((congrArg Scene.settings underway.scene).trans begins.settings)
  · intro transaction member
    obtain ⟨number, connection, uses, _⟩ := underway.stage.session transaction member
    exact ⟨number, connection, spares.others _ _ _ (apart.admin transaction member) uses⟩

end Ready

namespace Bench

/-- A bench on which a batch can be run over and over: the server only delays texts, the setup log
creates tables and adds rows, every table there is or will be has a column and a plain name, and each
transaction has an open connection of its own. -/
structure Suits (bench : Bench) (batch : Batch) : Prop where
  /-- The rules only delay texts. -/
  calm : bench.server.Calm
  /-- The session for setup statements has no transaction open. -/
  idle : bench.Idle
  /-- The tables have columns and plain names. -/
  orderly : bench.server.database.Orderly
  /-- The setup statements create tables or add rows. -/
  setup : ∀ query ∈ bench.setupLog, ∃ text, query.text = .text text ∧ IsSetup text
  /-- The sessions are open. -/
  sessions : ∀ transaction ∈ batch, ∃ number connection,
    transaction.session.Uses bench.server number connection
  /-- They are not the one for setup statements. -/
  keeps : ∀ transaction ∈ batch, bench.KeepsFrom transaction.session
  /-- No two transactions share a connection. -/
  distinct : ∀ left ∈ batch, ∀ right ∈ batch,
    left.session.connection = right.session.connection → left = right

/-- Once the database of a suitable bench has been restored, the bench was ready for a run as soon as
its session for setup statements was open. -/
theorem Suits.ready {bench after : Bench} {batch : Batch} (suits : bench.Suits batch)
    (returned : reproduce.Returns bench () after) :
    ∃ ground fresh, ground.Sound ∧ Ready ground batch fresh ∧ reproduce.Returns fresh () after ∧
      bench.Spares fresh ground.admin ∧ batch.Apart ground.admin ∧
        ground.settings = bench.settings := by
  obtain ⟨next, cut⟩ := reproduce_eq
  rw [cut] at returned
  obtain ⟨admin, fresh, opened, rest⟩ := Task.returns_bind.1 returned
  obtain ⟨managed, spares, apart⟩ := adminSession_ready suits.calm suits.idle opened
  have again : reproduce.Returns fresh () after := by
    rw [cut]
    exact Task.returns_bind.2 ⟨admin, fresh, managed.adminSession_returns.2 ⟨rfl, rfl⟩, rest⟩
  have setup : ∀ query ∈ fresh.setupLog, ∃ text, query.text = .text text ∧ IsSetup text := by
    rw [spares.setupLog]
    exact suits.setup
  obtain ⟨base, schema, restorable⟩ := managed.exists_restorable suits.orderly setup again
  have beside : ∀ transaction ∈ batch, transaction.session.connection ≠ admin.connection := by
    intro transaction member
    obtain ⟨number, connection, uses⟩ := suits.sessions transaction member
    exact apart transaction.session number connection uses (suits.keeps transaction member)
  refine ⟨⟨admin, bench.settings, fresh.setupLog, base, schema⟩, fresh, ?_, ?_, again, spares,
    ⟨suits.distinct, beside⟩, rfl⟩
  · exact ⟨setup, restorable.replayed_base, restorable.orderly suits.orderly, restorable.tells⟩
  · refine ⟨⟨_, managed, suits.orderly, restorable⟩, rfl, spares.settings, ?_⟩
    intro transaction member
    obtain ⟨number, connection, uses⟩ := suits.sessions transaction member
    exact ⟨number, connection, spares.others _ _ _ (beside transaction member) uses⟩

end Bench

end SerialCheck

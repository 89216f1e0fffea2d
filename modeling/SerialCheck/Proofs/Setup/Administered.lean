import SerialCheck.Proofs.Engine.Stage
import SerialCheck.Proofs.Setup.Catalog

/-!
# Setting up over a calm server

While the session for setup statements is open and idle, each text that is sent over it is answered by
the engine (`Bench.Administered.setup_returns`). Nothing but the database, the known tables and
records changes (`Bench.Spares`).
-/
namespace SerialCheck

/-- A bench over a calm server, on which the session for setup statements is open and idle. -/
structure Bench.Administered (bench : Bench) (admin : Session) (database : Database) : Prop where
  /-- The session for setup statements. -/
  session : bench.admin = some admin
  /-- The rules only delay texts. -/
  calm : bench.server.Calm
  /-- The database. -/
  database : bench.server.database = database
  /-- The session is open and has no transaction. -/
  idle : ∃ number connection, admin.Uses bench.server number connection ∧ connection.work = none

/-- What is done over the session for setup statements spares everything else on the bench that
answers depend on. -/
structure Bench.Spares (bench after : Bench) (admin : Session) : Prop where
  /-- The settings stay. -/
  settings : after.settings = bench.settings
  /-- The setup statements stay. -/
  setupLog : after.setupLog = bench.setupLog
  /-- It takes no time. -/
  now : after.now = bench.now
  /-- Other sessions go on using their connections. -/
  others : ∀ (session : Session) number connection, session.connection ≠ admin.connection →
    session.Uses bench.server number connection → session.Uses after.server number connection
  /-- No rules come about. -/
  quiet : bench.server.rules = [] → after.server.rules = []

namespace Bench.Spares

variable {bench between after : Bench} {admin : Session}

theorem refl (bench : Bench) (admin : Session) : bench.Spares bench admin where
  settings := rfl
  setupLog := rfl
  now := rfl
  others := fun _ _ _ _ uses => uses
  quiet := id

theorem trans (first : bench.Spares between admin) (second : between.Spares after admin) :
    bench.Spares after admin where
  settings := second.settings.trans first.settings
  setupLog := second.setupLog.trans first.setupLog
  now := second.now.trans first.now
  others := fun session number connection apart uses =>
    second.others session number connection apart (first.others session number connection apart uses)
  quiet := fun none => second.quiet (first.quiet none)

/-- A record in the journal and other known tables are nothing that answers depend on. -/
theorem recorded (spares : bench.Spares after admin) (journal : History (Level × String))
    (schema : Schema) : bench.Spares { after with journal, schema } admin where
  settings := spares.settings
  setupLog := spares.setupLog
  now := spares.now
  others := spares.others
  quiet := spares.quiet

end Bench.Spares

theorem Engine.execute_schemaQuery (database : Database) :
    Engine.execute ⟨database, none⟩ schemaQuery = (.ok (some database.catalog), ⟨database, none⟩) := by
  rw [Engine.execute, Command.ofText_schemaQuery]
  rfl

/-- The catalog can be read, and tells the schema. -/
def Database.Tells (database : Database) (schema : Schema) : Prop :=
  Bench.schemaOf database.catalog = .ok schema ∧ schema.disorder? = none

/-- The bench after the known tables were read from the catalog. -/
def Bench.afterReading (bench : Bench) (admin : Session) (schema : Schema) : Bench :=
  let read := bench.afterSending admin (.text schemaQuery)
  { read with
    schema
    journal := read.journal.push (.debug,
      s!"Schema has {schema.tables.length} tables: " ++ (Value.array schema.keys).literal) }

/-- What follows a text over the session for setup statements goes on with its outcome. -/
theorem Bench.setup_returns_iff {bench after : Bench} {admin : Session} {text : String}
    (hand : adminSession.Returns bench admin bench) {α : Type} {next : Outcome → Task α}
    {result : α} :
    (adminSession >>= fun session => execute session (.text text) >>= next).Returns bench result
        after ↔
      ∃ outcome, (bench.scene.reply admin (.text text)).result = .ok outcome ∧
        (next outcome).Returns (bench.afterSending admin (.text text)) result after := by
  simp only [Task.returns_bind, execute_returns]
  constructor
  · rintro ⟨session, between, found, outcome, _, ⟨replied, rfl⟩, rest⟩
    obtain ⟨rfl, rfl⟩ := found.unique hand
    exact ⟨outcome, replied, rest⟩
  · rintro ⟨outcome, replied, rest⟩
    exact ⟨admin, bench, hand, outcome, _, ⟨replied, rfl⟩, rest⟩

theorem Bench.setup_returns_of_reply {bench after : Bench} {admin : Session} {text : String}
    {outcome : Outcome} (hand : adminSession.Returns bench admin bench)
    (replied : (bench.scene.reply admin (.text text)).result = .ok outcome) {α : Type}
    {next : Outcome → Task α} {result : α} :
    (adminSession >>= fun session => execute session (.text text) >>= next).Returns bench result
        after ↔
      (next outcome).Returns (bench.afterSending admin (.text text)) result after := by
  rw [setup_returns_iff hand, replied]
  simp

/-- Once the catalog has been replied with, the known tables are read from it. -/
theorem Bench.updateSchema_returns_of_reply {bench after : Bench} {admin : Session}
    {database : Database} (hand : adminSession.Returns bench admin bench)
    (replied : (bench.scene.reply admin (.text schemaQuery)).result =
      .ok { rows := some database.catalog }) :
    updateSchema.Returns bench () after ↔
      ∃ schema, database.Tells schema ∧ after = bench.afterReading admin schema := by
  rw [updateSchema, setup_returns_of_reply hand replied]
  simp only [Option.getD_some, Task.returns_bind, Task.returns_use, Task.returns_modify]
  constructor
  · rintro ⟨schema, _, ⟨read, rfl⟩, _, _, rfl, rest⟩
    cases disorder : schema.disorder? with
    | some cause =>
      simp only [disorder, Task.returns_bind, Task.returns_throw, false_and, exists_false] at rest
    | none =>
      simp only [disorder, Task.returns_log] at rest
      exact ⟨schema, ⟨read, disorder⟩, rest⟩
  · rintro ⟨schema, ⟨read, disorder⟩, rfl⟩
    refine ⟨schema, _, ⟨read, rfl⟩, (), _, rfl, ?_⟩
    simp only [disorder, Task.returns_log]
    rfl

/-- The session for setup statements is at hand if it is there and open. -/
theorem Bench.adminSession_of_open {bench : Bench} {admin : Session} {number : Nat}
    {connection : Connection} (present : bench.admin = some admin)
    (uses : admin.Uses bench.server number connection) : adminSession bench = (.ok admin, bench) := by
  have returned : adminSession.Returns bench admin bench := by
    rw [adminSession, Task.returns_get_bind, present]
    simp only [uses.not_isClosed, Bool.false_eq_true, ↓reduceIte]
    exact Task.returns_pure.2 ⟨rfl, rfl⟩
  exact returned

namespace Bench.Administered

open Bench

variable {bench : Bench} {admin : Session} {database later : Database} {text : String}
  {answer : Answer}

/-- A record in the journal and other known tables leave the bench administered. -/
theorem recorded (ready : bench.Administered admin database) (journal : History (Level × String))
    (schema : Schema) : { bench with journal, schema }.Administered admin database where
  session := ready.session
  calm := ready.calm
  database := ready.database
  idle := ready.idle

/-- The session for setup statements is at hand. -/
theorem adminSession_returns (ready : bench.Administered admin database) {session : Session}
    {after : Bench} : adminSession.Returns bench session after ↔ session = admin ∧ after = bench := by
  obtain ⟨number, connection, uses, _⟩ := ready.idle
  rw [Task.Returns, adminSession_of_open ready.session uses, Prod.mk.injEq, Except.ok.injEq,
    eq_comm, @eq_comm _ bench]

/-- A text over the session for setup statements is answered by the engine. -/
theorem send (ready : bench.Administered admin database)
    (answered : Engine.execute ⟨database, none⟩ text = (answer, ⟨later, none⟩)) :
    (bench.scene.reply admin (.text text)).result = .ok (.ofAnswer answer) ∧
      (bench.afterSending admin (.text text)).Administered admin later ∧
        bench.Spares (bench.afterSending admin (.text text)) admin := by
  obtain ⟨number, connection, uses, idle⟩ := ready.idle
  have made : bench.server.engineAfter connection text = (answer, ⟨later, none⟩) := by
    rw [← answered, ← idle, ← ready.database]
    rfl
  obtain ⟨delay, record, after, executed, became⟩ :=
    Session.execute_became ready.calm uses text
  rw [made] at executed became
  have reply : bench.scene.reply admin (.text text) = ⟨delay, .ok (.ofAnswer answer), record⟩ :=
    congrArg Prod.fst executed
  have server : (bench.afterSending admin (.text text)).server = after :=
    congrArg Prod.snd executed
  refine ⟨by rw [reply], ⟨ready.session, ?_, ?_, ?_⟩, ⟨rfl, rfl, rfl, ?_, ?_⟩⟩
  · rw [server]
    exact became.calm
  · rw [server]
    exact became.database
  · rw [server]
    exact ⟨number, _, uses.of_became_self became uses.alive, rfl⟩
  · intro session place held apart theirs
    rw [server]
    refine theirs.of_became became ?_
    rintro rfl
    exact apart (theirs.named.trans uses.named.symm)
  · exact fun none => (Session.execute_quiet none text).2

/-- What follows a text over the session for setup statements goes on with the engine's answer. -/
theorem setup_returns (ready : bench.Administered admin database)
    (answered : Engine.execute ⟨database, none⟩ text = (answer, ⟨later, none⟩)) {α : Type}
    {next : Outcome → Task α} {after : Bench} {result : α} :
    (adminSession >>= fun session => execute session (.text text) >>= next).Returns bench result
        after ↔
      (next (.ofAnswer answer)).Returns (bench.afterSending admin (.text text)) result after :=
  setup_returns_of_reply (ready.adminSession_returns.2 ⟨rfl, rfl⟩) (ready.send answered).1

/-- The known tables are read from the catalog. -/
theorem updateSchema_returns (ready : bench.Administered admin database) {after : Bench} :
    updateSchema.Returns bench () after ↔
      ∃ schema, database.Tells schema ∧ after = bench.afterReading admin schema :=
  updateSchema_returns_of_reply (ready.adminSession_returns.2 ⟨rfl, rfl⟩)
    (ready.send (Engine.execute_schemaQuery database)).1

/-- Reading the catalog leaves the database as it is. -/
theorem afterReading (ready : bench.Administered admin database) (schema : Schema) :
    (bench.afterReading admin schema).Administered admin database ∧
      bench.Spares (bench.afterReading admin schema) admin := by
  obtain ⟨_, after, spares⟩ := ready.send (Engine.execute_schemaQuery database)
  exact ⟨after.recorded _ schema, spares.recorded _ schema⟩

end Bench.Administered

end SerialCheck

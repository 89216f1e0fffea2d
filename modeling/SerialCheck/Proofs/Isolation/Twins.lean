import SerialCheck.Proofs.Engine.Commands
import SerialCheck.Proofs.Isolation.Alike
import SerialCheck.Proofs.Isolation.Stateless

/-!
# Scenes that cannot be told apart

Scenes are twins if they have the same tables, rules and setup statements and their sessions for
setup statements are idle (`Scene.Twins`). The notices and open transactions that earlier runs left on other
sessions may differ. A text that the engines of both answer alike is replied to alike, and the scenes are
twins afterwards (`Scene.Twins.send`).
-/
namespace SerialCheck

/-- The session has an open connection of the server. -/
def Session.IsOpen (session : Session) (server : Server) : Prop :=
  ∃ number connection, session.Uses server number connection

namespace Session.Uses

variable {session : Session} {server after : Server} {database : Database} {number other : Nat}
  {connection changed : Connection}

/-- A session goes on using its connection when another one has been replaced. -/
theorem of_changed (uses : session.Uses server number connection)
    (replaced : server.Changed after database other changed) (apart : number ≠ other) :
    session.Uses after number connection :=
  ⟨uses.named, (replaced.connection number).trans ((if_neg apart).trans uses.present), uses.alive⟩

/-- A session goes on using its own connection when that has been replaced and is still open. -/
theorem of_changed_self (uses : session.Uses server number connection)
    (replaced : server.Changed after database number changed) (alive : changed.closed = false) :
    session.Uses after number changed :=
  ⟨uses.named, (replaced.connection number).trans (if_pos rfl), alive⟩

end Session.Uses

namespace Server.Changed

variable {server after : Server} {database : Database} {number : Nat}
  {connection changed : Connection} {session other : Session}

/-- A connection that is replaced by an open one leaves every open session open. -/
theorem isOpen (replaced : server.Changed after database number changed)
    (alive : changed.closed = false) (opened : session.IsOpen server) : session.IsOpen after := by
  obtain ⟨place, connection, uses⟩ := opened
  by_cases same : place = number
  · subst same
    exact ⟨place, changed, uses.of_changed_self replaced alive⟩
  · exact ⟨place, connection, uses.of_changed replaced same⟩

end Server.Changed

namespace Scene

/-- The session for setup statements is open and has no transaction. -/
structure Managed (scene : Scene) (admin : Session) : Prop where
  /-- It is the session for setup statements. -/
  session : scene.admin = some admin
  /-- It is open and idle. -/
  idle : ∃ number connection, admin.Uses scene.server number connection ∧ connection.work = none

/-- The scenes differ by nothing that the transactions of a batch can find out. -/
structure Twins (admin : Session) (batch : Batch) (first second : Scene) : Prop where
  /-- The session for setup statements is idle on the first scene. -/
  one : first.Managed admin
  /-- So it is on the second one. -/
  two : second.Managed admin
  /-- The rules are steady. -/
  steady : first.server.Steady
  /-- They are the same but for what they have seen. -/
  rules : second.server.rules.map Rule.fresh = first.server.rules.map Rule.fresh
  /-- The tables are the same. -/
  tables : first.server.database.Matches second.server.database
  /-- So are the known tables. -/
  schema : second.schema = first.schema
  /-- So are the setup statements. -/
  setupLog : second.setupLog = first.setupLog
  /-- The sessions of the batch are open on both. -/
  sessions : ∀ transaction ∈ batch,
    transaction.session.IsOpen first.server ∧ transaction.session.IsOpen second.server
  /-- They are not the one for setup statements. -/
  apart : ∀ transaction ∈ batch, transaction.session.connection ≠ admin.connection
  /-- No rule concerns the opening statements of the batch. -/
  openings : ∀ transaction ∈ batch, ∀ text, transaction.opening.text = .text text →
    first.server.Leaves text

/-- The scenes are twins, and a relation holds between the engines as a session finds them. -/
structure Within (admin : Session) (batch : Batch) (session : Session)
    (related : Engine → Engine → Prop) (first second : Scene) : Prop where
  /-- The scenes are twins. -/
  twins : Twins admin batch first second
  /-- The engines are related. -/
  engines : ∃ number mine yours, session.Uses first.server number mine ∧
    session.Uses second.server number yours ∧
      related ⟨first.server.database, mine.work⟩ ⟨second.server.database, yours.work⟩

/-- The engines have the same tables. -/
def SameTables (first second : Engine) : Prop := first.database.Matches second.database

/-- The engines have the same tables and no open transactions. -/
structure BothIdle (first second : Engine) : Prop where
  /-- The tables are the same. -/
  tables : first.database.Matches second.database
  /-- There is no open transaction. -/
  one : first.work = none
  /-- Neither is there on the other side. -/
  two : second.work = none

variable {admin session : Session} {batch : Batch} {first second : Scene} {text : String}

/-- Twins for which the same tables become known are still twins. -/
theorem Twins.knowing (twins : Twins admin batch first second) (schema : Schema) :
    Twins admin batch { first with schema } { second with schema } where
  one := ⟨twins.one.session, twins.one.idle⟩
  two := ⟨twins.two.session, twins.two.idle⟩
  steady := twins.steady
  rules := twins.rules
  tables := twins.tables
  schema := rfl
  setupLog := twins.setupLog
  sessions := twins.sessions
  apart := twins.apart
  openings := twins.openings

/-- After a text over one session the other ones are as before. -/
theorem Managed.send {scene : Scene} (managed : scene.Managed admin)
    (apart : session.connection ≠ admin.connection) {database : Database} {number : Nat}
    {connection changed : Connection} (uses : session.Uses scene.server number connection)
    (replaced : scene.server.Changed (scene.serverAfter session (.text text)) database number
      changed) : (scene.send session (.text text)).Managed admin := by
  obtain ⟨place, held, theirs, idle⟩ := managed.idle
  refine ⟨managed.session, place, held, theirs.of_changed replaced ?_, idle⟩
  rintro rfl
  exact apart (uses.named.trans theirs.named.symm)

/-- A text that is sent over an open session on a scene with a steady server has its effect. -/
theorem send_steady {scene : Scene} (steady : scene.server.Steady) {number : Nat}
    {connection : Connection} (uses : session.Uses scene.server number connection) (text : String) :
    scene.reply session (.text text) =
        (scene.server.effect number connection text).reply session.label (.text text) ∧
      ∃ changed : Connection, changed.closed = false ∧
        changed.work = (scene.server.engineThen number connection text).work ∧
        scene.server.Changed (scene.send session (.text text)).server
          (scene.server.engineThen number connection text).database number changed := by
  obtain ⟨replied, notices, replaced⟩ := Session.execute_steady steady uses text
  exact ⟨replied,
    { connection with notices, work := (scene.server.engineThen number connection text).work }, uses.alive,
    rfl, replaced⟩

/-- Twins whose engines act alike on a text, as the session finds them, reply to it alike and are twins
afterwards; the engines are related as before. -/
theorem Twins.send (twins : Twins admin batch first second)
    {before after : Engine → Engine → Prop} {number : Nat} {mine yours : Connection}
    (here : session.Uses first.server number mine) (there : session.Uses second.server number yours)
    (related : before ⟨first.server.database, mine.work⟩ ⟨second.server.database, yours.work⟩)
    (answers : (second.server.engineAfter yours text).1 = (first.server.engineAfter mine text).1)
    (acts : after (first.server.engineAfter mine text).2 (second.server.engineAfter yours text).2)
    (stays : first.server.Leaves text ∨ ∀ one two, before one two → after one two)
    (tables : ∀ one two, after one two → one.database.Matches two.database)
    (idle : session.connection ≠ admin.connection ∨
      session = admin ∧ ∀ one two, after one two → one.work = none ∧ two.work = none) :
    second.reply session (.text text) = first.reply session (.text text) ∧
      Within admin batch session after (first.send session (.text text))
        (second.send session (.text text)) := by
  have steady : second.server.Steady := twins.steady.of_rules twins.rules
  obtain ⟨mineReply, mineAfter, mineAlive, mineWork, mineChanged⟩ :=
    send_steady twins.steady here text
  obtain ⟨yoursReply, yoursAfter, yoursAlive, yoursWork, yoursChanged⟩ :=
    send_steady steady there text
  have effects := Server.effect_congr twins.rules number answers
  have thens : after (first.server.engineThen number mine text) (second.server.engineThen number yours text) := by
    rcases stays with left | weaker
    · rw [left.engineThen_eq, (left.of_rules twins.rules).engineThen_eq]
      exact acts
    · unfold Server.engineThen
      rw [effects]
      unfold Effect.engine
      cases (first.server.effect number mine text).acted with
      | true => exact acts
      | false => exact weaker _ _ related
  have here' := here.of_changed_self mineChanged mineAlive
  have there' := there.of_changed_self yoursChanged yoursAlive
  refine ⟨?_, ⟨?_, ?_, ?_, ?_, ?_, twins.schema, twins.setupLog, ?_, twins.apart, ?_⟩, number, _, _,
    here', there', ?_⟩
  · rw [yoursReply, mineReply, effects]
  · rcases idle with apart | ⟨rfl, still⟩
    · exact twins.one.send apart here mineChanged
    · exact ⟨twins.one.session, number, _, here', mineWork.trans (still _ _ thens).1⟩
  · rcases idle with apart | ⟨rfl, still⟩
    · exact twins.two.send apart there yoursChanged
    · exact ⟨twins.two.session, number, _, there', yoursWork.trans (still _ _ thens).2⟩
  · exact twins.steady.of_rules mineChanged.rules
  · exact (yoursChanged.rules.trans twins.rules).trans mineChanged.rules.symm
  · rw [mineChanged.database, yoursChanged.database]
    exact tables _ _ thens
  · intro transaction member
    obtain ⟨mine, yours⟩ := twins.sessions transaction member
    exact ⟨mineChanged.isOpen mineAlive mine, yoursChanged.isOpen yoursAlive yours⟩
  · exact fun transaction member text said =>
      (twins.openings transaction member text said).of_rules mineChanged.rules
  · rw [mineChanged.database, yoursChanged.database, mineWork, yoursWork]
    exact thens

/-- A text over the session for setup statements that opens no transaction is replied to alike. -/
theorem Twins.manage (twins : Twins admin batch first second)
    (opens : Command.ofText text ≠ .begin) :
    second.reply admin (.text text) = first.reply admin (.text text) ∧
      Twins admin batch (first.send admin (.text text)) (second.send admin (.text text)) := by
  obtain ⟨number, mine, here, idle⟩ := twins.one.idle
  obtain ⟨place, yours, there, still⟩ := twins.two.idle
  obtain rfl : number = place := Option.some.inj (here.named.symm.trans there.named)
  have alike : Engine.Alike ⟨first.server.database, mine.work⟩
      ⟨second.server.database, yours.work⟩ := Engine.alike_of_idle twins.tables idle still
  have acts : (second.server.engineAfter yours text).1 = (first.server.engineAfter mine text).1 ∧
      (first.server.engineAfter mine text).2.Alike (second.server.engineAfter yours text).2 :=
    alike.execute (.inl idle)
  have stays : ∀ (server : Server) (connection : Connection), connection.work = none →
      (server.engineAfter connection text).2.work = none := by
    intro server connection none
    rw [Server.engineAfter]
    exact Engine.execute_idle none opens
  have both : BothIdle (first.server.engineAfter mine text).2
      (second.server.engineAfter yours text).2 :=
    ⟨acts.2.tables, stays first.server mine idle, stays second.server yours still⟩
  have sent := twins.send here there (⟨twins.tables, idle, still⟩ : BothIdle _ _) acts.1 both
    (.inr fun _ _ both => both) (fun _ _ both => both.tables)
    (.inr ⟨rfl, fun _ _ both => ⟨both.one, both.two⟩⟩)
  exact ⟨sent.1, sent.2.twins⟩

/-- A text in the middle of a transaction that neither creates nor drops a table is replied to alike if the
engines were alike before, and they are alike afterwards. -/
theorem Within.send {transaction : OpenTransaction}
    (within : Within admin batch transaction.session Engine.Alike first second)
    (member : transaction ∈ batch) (keeps : (Command.ofText text).KeepsTables) :
    second.reply transaction.session (.text text) = first.reply transaction.session (.text text) ∧
      Within admin batch transaction.session Engine.Alike
        (first.send transaction.session (.text text))
        (second.send transaction.session (.text text)) := by
  obtain ⟨number, mine, yours, here, there, alike⟩ := within.engines
  have acts : (second.server.engineAfter yours text).1 = (first.server.engineAfter mine text).1 ∧
      (first.server.engineAfter mine text).2.Alike (second.server.engineAfter yours text).2 :=
    alike.execute (.inr keeps)
  exact within.twins.send here there alike acts.1 acts.2 (.inr fun _ _ both => both)
    (fun _ _ both => both.tables) (.inl (within.twins.apart transaction member))

/-- An opening statement is replied to alike and makes the engines alike, whatever has been left on the
session. -/
theorem Twins.begin (twins : Twins admin batch first second) {transaction : OpenTransaction}
    (member : transaction ∈ batch) (opening : transaction.opening.text = .text text)
    (opens : Command.ofText text = .begin) :
    second.reply transaction.session (.text text) = first.reply transaction.session (.text text) ∧
      Within admin batch transaction.session Engine.Alike
        (first.send transaction.session (.text text))
        (second.send transaction.session (.text text)) := by
  obtain ⟨⟨number, mine, here⟩, place, yours, there⟩ := twins.sessions transaction member
  obtain rfl : number = place := Option.some.inj (here.named.symm.trans there.named)
  have begun : ∀ engine : Engine, engine.execute text = (.ok none, { engine with work := some {} }) := by
    intro engine
    rw [Engine.execute, opens]
    rfl
  have same : SameTables ⟨first.server.database, mine.work⟩ ⟨second.server.database, yours.work⟩ :=
    twins.tables
  refine twins.send here there same ?_ ?_ (.inl (twins.openings transaction member text opening))
    (fun _ _ both => both.tables) (.inl (twins.apart transaction member))
  · rw [Server.engineAfter, Server.engineAfter, begun, begun]
  · rw [Server.engineAfter, Server.engineAfter, begun, begun]
    exact ⟨twins.tables, .inr ⟨{}, {}, rfl, rfl, rfl, rfl, fun _ _ => rfl⟩⟩

/-- A rollback is replied to alike, whatever has been left on the session. -/
theorem Twins.rollback (twins : Twins admin batch first second) {transaction : OpenTransaction}
    (member : transaction ∈ batch) :
    second.reply transaction.session (.text Bench.rollbackText) =
        first.reply transaction.session (.text Bench.rollbackText) ∧
      Twins admin batch (first.send transaction.session (.text Bench.rollbackText))
        (second.send transaction.session (.text Bench.rollbackText)) := by
  obtain ⟨⟨number, mine, here⟩, place, yours, there⟩ := twins.sessions transaction member
  obtain rfl : number = place := Option.some.inj (here.named.symm.trans there.named)
  have ended : ∀ engine : Engine,
      engine.execute Bench.rollbackText = (.ok none, { engine with work := none }) := by
    intro engine
    rw [Engine.execute, Bench.rollbackText, Command.ofText_rollback]
    rfl
  have same : SameTables ⟨first.server.database, mine.work⟩ ⟨second.server.database, yours.work⟩ :=
    twins.tables
  have answers : (second.server.engineAfter yours Bench.rollbackText).1 =
      (first.server.engineAfter mine Bench.rollbackText).1 := by
    rw [Server.engineAfter, Server.engineAfter, ended, ended]
  have acts : SameTables (first.server.engineAfter mine Bench.rollbackText).2
      (second.server.engineAfter yours Bench.rollbackText).2 := by
    rw [Server.engineAfter, Server.engineAfter, ended, ended]
    exact twins.tables
  have sent := twins.send here there same answers acts (.inr fun _ _ same => same)
    (fun _ _ same => same) (.inl (twins.apart transaction member))
  exact ⟨sent.1, sent.2.twins⟩

end Scene

end SerialCheck

import SerialCheck.Proofs.Engine.Ended
import SerialCheck.Proofs.Setup.Legible
import SerialCheck.Proofs.Setup.Opening
import SerialCheck.Proofs.Setup.Rules

/-!
# Equipped scenes

A scene is equipped if its settings name a database and a lock timeout, its setup statements are texts, and
its server has proper rules and a catalog that can be read. Whatever text is sent, it stays equipped and
the only faults are those of sessions (`Bench.upkeep_equipped`). So it is with every task that
restores the database.
-/
namespace SerialCheck

/-- The fault is one of a session. -/
def Fault.IsSession (fault : Fault) : Prop := ∃ cause, fault = .session cause

/-- A server with proper rules whose catalog can be read. -/
structure Server.Equipped (server : Server) : Prop where
  /-- The rules are proper. -/
  proper : server.Proper
  /-- Rows with which a rule answers the query for the catalog describe columns. -/
  describes : ∀ rule ∈ server.rules, ∀ number rows, rule.Meets number schemaQuery →
    rule.answer = .rows (.ok (some rows)) → rows.Describe
  /-- So does the engine. -/
  typed : server.database.Typed

namespace Server.Equipped

variable {server after : Server}

/-- A server with the same rules and another database is equipped if the columns are typed. -/
theorem of_rules (equipped : server.Equipped)
    (same : after.rules.map Rule.fresh = server.rules.map Rule.fresh) (typed : after.database.Typed) :
    after.Equipped where
  proper := equipped.proper.of_rules same
  describes := by
    have stable : ∀ one two : Rule, one.fresh = two.fresh →
        (∀ number rows, one.Meets number schemaQuery → one.answer = .rows (.ok (some rows)) →
          rows.Describe) →
        ∀ number rows, two.Meets number schemaQuery → two.answer = .rows (.ok (some rows)) →
          rows.Describe := by
      intro one two alike fine number rows meets answers
      exact fine number rows (meets.of_fresh alike.symm) ((Rule.answer_of_fresh alike).trans answers)
    exact forall_rules_of_fresh stable equipped.describes same
  typed := typed

/-- What a server is told leaves it equipped. -/
theorem of_told (equipped : server.Equipped) {number : Nat} {connection replaced kept : Connection}
    {text : String} {response : Response} {delay : Number} {told : Server}
    (tells : server.Told number connection text response delay told replaced)
    (changed : server.Changed after told.database number kept) : after.Equipped := by
  refine equipped.of_rules changed.rules ?_
  rw [changed.database]
  rcases tells.database with same | acted
  · rw [same]
    exact equipped.typed
  · rw [acted, engineAfter]
    exact equipped.typed.execute connection.work text

/-- So does a text over a session. -/
theorem execute (equipped : server.Equipped) (session : Session) (text : String) :
    (session.execute (.text text) server).2.Equipped := by
  rcases session.isClosed_or_uses server with closed | ⟨number, connection, uses⟩
  · rw [Session.execute_of_isClosed closed]
    exact equipped
  · obtain ⟨_, _, _, _, _, kept, _, told, _, _, changed, _⟩ :=
      Session.execute_told equipped.proper uses text
    exact equipped.of_told told changed

/-- The rows with which the query for the catalog is answered describe columns. -/
theorem describe_rows (equipped : server.Equipped) {session : Session} {outcome : Outcome}
    (answered : (session.execute (.text schemaQuery) server).1.result = .ok outcome) :
    ∀ rows, outcome.rows = some rows → rows.Describe := by
  rcases session.isClosed_or_uses server with closed | ⟨number, connection, uses⟩
  · rw [Session.result_of_isClosed closed] at answered
    cases answered
  obtain ⟨response, _, _, replaced, warning, _, _, told, _, result, _, _⟩ :=
    Session.execute_told equipped.proper uses schemaQuery
  rw [result] at answered
  intro rows held
  cases response with
  | error refusal =>
    obtain ⟨kind, report, rfl, _⟩ := told.refusal refusal rfl
    have none : outcome.rows = none := by
      cases kind with
      | warning => cases answered
      | statement => cases answered; rfl
      | operational | interface =>
        cases lost : replaced.closed with
        | true =>
          rw [lost] at answered
          cases answered
        | false =>
          rw [lost] at answered
          cases answered
          rfl
    rw [none] at held
    cases held
  | ok given =>
    cases answered
    have same : given = some rows := held
    subst same
    rcases told.rows _ rfl with ⟨rule, member, meets, answers⟩ | engine
    · exact equipped.describes rule member number rows meets answers
    · have catalog : (server.engineAfter connection schemaQuery).1 =
          .ok (some server.database.catalog) := by
        rw [engineAfter, Engine.execute, Command.ofText_schemaQuery]
        rfl
      rw [catalog] at engine
      cases engine
      exact equipped.typed.catalog

/-- A session that is opened leaves the server equipped, and may have a fault of a session. -/
theorem connect (equipped : server.Equipped) (address label : String) {timeout : Value}
    (writable : timeout.isFilled = true → ∃ text, Session.lockTimeoutText timeout = .ok text) :
    let (result, after) := Session.connect address label timeout server
    after.Equipped ∧ ∀ fault, result = .error fault → fault.IsSession := by
  have asked : (server.connect address).2.Equipped := by
    unfold Server.connect
    simp only
    split <;> exact equipped.of_rules rfl equipped.typed
  unfold Session.connect
  cases granted : server.connect address with
  | mk result reached =>
    rw [granted] at asked
    cases result with
    | error report =>
      refine ⟨asked, ?_⟩
      rintro _ ⟨⟩
      exact ⟨_, rfl⟩
    | ok number =>
      cases filled : timeout.isFilled with
      | false => exact ⟨asked, fun _ impossible => by cases impossible⟩
      | true =>
        obtain ⟨text, written⟩ := writable filled
        obtain ⟨_, _, _, present, _⟩ := connect_ok granted
        obtain ⟨response, delay, after, replaced, executed, told⟩ :=
          Server.execute_told asked.proper present text
        have still : after.Equipped := asked.of_told told told.changed
        simp only [Bool.not_true, Bool.false_eq_true, ↓reduceIte, written, executed]
        cases response with
        | ok rows => exact ⟨still, fun _ impossible => by cases impossible⟩
        | error refusal =>
          obtain ⟨kind, report, rfl, error⟩ := told.refusal refusal rfl
          refine ⟨still, ?_⟩
          rintro _ ⟨⟩
          cases kind with
          | warning => exact absurd rfl error
          | _ => exact ⟨_, rfl⟩

end Server.Equipped

/-- What a run needs of a scene: a database and a lock timeout that are named, setup statements that are
texts, and an equipped server. -/
structure Scene.Equipped (scene : Scene) : Prop where
  /-- The server is equipped. -/
  server : scene.server.Equipped
  /-- The address of the database is a text. -/
  address : ∃ address, scene.settings.connection = .text address
  /-- The statement that sets a lock timeout can be written. -/
  lockTimeout : scene.settings.lockTimeout.isFilled = true →
    ∃ text, Session.lockTimeoutText scene.settings.lockTimeout = .ok text
  /-- The setup statements are texts. -/
  setupLog : ∀ query ∈ scene.setupLog, ∃ text, query.text = .text text

namespace Scene.Equipped

variable {scene : Scene}

/-- Sending a text leaves a scene equipped. -/
theorem send (equipped : scene.Equipped) (session : Session) (text : String) :
    (scene.send session (.text text)).Equipped :=
  { equipped with server := equipped.server.execute session text }

/-- The fault of a text, if there is one, is that of its session. -/
theorem reply_fault (equipped : scene.Equipped) {session : Session} {text : String} {fault : Fault}
    (failed : (scene.reply session (.text text)).result = .error fault) : fault.IsSession := by
  have replied : (session.execute (.text text) scene.server).1.result = .error fault := failed
  rcases (Session.tells equipped.server.proper session text).ends with ⟨outcome, fine⟩ | ⟨cause, lost⟩
  · rw [replied] at fine
    cases fine
  · rw [replied] at lost
    cases lost
    exact ⟨cause, rfl⟩

end Scene.Equipped

namespace Bench

/-- Whatever is sent before a batch runs, a bench stays equipped and only sessions have faults. -/
theorem upkeep_equipped :
    Upkeep (fun bench => bench.scene.Equipped) Fault.IsSession fun value =>
      ∃ text, value = .text text where
  sends := by
    rintro bench session _ equipped ⟨text, rfl⟩
    exact ⟨equipped.send session text, fun fault failed => equipped.reply_fault failed⟩
  reads := fun bench session outcome equipped answered =>
    legible_of_rows _ (equipped.server.describe_rows answered)
  address := by
    rintro bench cause equipped misused
    obtain ⟨address, named⟩ := equipped.address
    have same : bench.settings.connection = .text address := named
    rw [same] at misused
    cases misused
  connects := by
    intro bench address label equipped
    have connected := equipped.server.connect address label equipped.lockTimeout
    obtain ⟨result, after, opened⟩ : ∃ result after,
        Session.connect address label bench.settings.lockTimeout bench.server = (result, after) :=
      ⟨_, _, rfl⟩
    have same : Session.connect address label bench.scene.settings.lockTimeout bench.scene.server =
        (result, after) := opened
    rw [same] at connected
    rw [opened]
    exact ⟨{ equipped with server := connected.1 }, connected.2⟩
  written := fun text => ⟨text, rfl⟩
  logged := fun _ equipped => equipped.setupLog
  schema := fun _ _ equipped => { equipped with }
  admin := fun _ _ equipped => { equipped with }
  journal := fun _ _ equipped => equipped
  session := fun cause => ⟨cause, rfl⟩

end Bench

end SerialCheck

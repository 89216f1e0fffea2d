import SerialCheck.Proofs.Task
import SerialCheck.Run.Interleaved

/-!
# Scenes

The scene of a bench is what decides how texts are answered and how the database is set up:
the settings, the server, the known tables, the setup log and the session for setup statements. Only
sending a text changes a scene while transactions run; records, waiting and random choices leave
it as it is.
-/
namespace SerialCheck

/-- What decides how texts that are sent from a bench are answered. -/
structure Scene where
  /-- The settings. -/
  settings : Settings
  /-- The server. -/
  server : Server
  /-- The known tables. -/
  schema : Schema
  /-- The setup statements. -/
  setupLog : List Query
  /-- The session for setup statements. -/
  admin : Option Session

/-- The scene of a bench. -/
def Bench.scene (bench : Bench) : Scene :=
  ⟨bench.settings, bench.server, bench.schema, bench.setupLog, bench.admin⟩

namespace Scene

/-- The server after it was sent a text over a session. -/
def serverAfter (scene : Scene) (session : Session) (text : Value) : Server :=
  (session.execute text scene.server).2

/-- The scene after a text was sent over a session. -/
def send (scene : Scene) (session : Session) (text : Value) : Scene :=
  { scene with server := scene.serverAfter session text }

/-- The reply to a text that is sent over a session. -/
def reply (scene : Scene) (session : Session) (text : Value) : Reply :=
  (session.execute text scene.server).1

end Scene

namespace Bench

/-- Two benches on which texts are answered alike and the time is the same. -/
structure Agrees (bench other : Bench) : Prop where
  /-- The scenes are the same. -/
  scene : other.scene = bench.scene
  /-- The times are the same. -/
  now : other.now = bench.now

namespace Agrees

variable {bench other third : Bench}

/-- A bench agrees with itself. -/
theorem refl (bench : Bench) : bench.Agrees bench := ⟨rfl, rfl⟩

/-- What agrees with an agreeing bench agrees. -/
theorem trans (first : bench.Agrees other) (second : other.Agrees third) : bench.Agrees third :=
  ⟨second.scene.trans first.scene, second.now.trans first.now⟩

/-- Agreeing benches have the same server. -/
theorem server (agrees : bench.Agrees other) : other.server = bench.server :=
  congrArg Scene.server agrees.scene

/-- Agreeing benches have the same settings. -/
theorem settings (agrees : bench.Agrees other) : other.settings = bench.settings :=
  congrArg Scene.settings agrees.scene

/-- A record in the journal keeps a bench in agreement. -/
theorem journal (bench : Bench) (journal : History (Level × String)) :
    bench.Agrees { bench with journal } := ⟨rfl, rfl⟩

end Agrees

/-- The bench after a text was sent: its server has the text and its journal the record. -/
def afterSending (bench : Bench) (session : Session) (text : Value) : Bench :=
  { bench with
    server := bench.scene.serverAfter session text
    journal :=
      match (bench.scene.reply session text).record with
      | some record => bench.journal.push (.debug, record)
      | none => bench.journal }

/-- Sending a text changes the scene by that text. -/
@[simp] theorem afterSending_scene (bench : Bench) (session : Session) (text : Value) :
    (bench.afterSending session text).scene = bench.scene.send session text := rfl

/-- Sending a text takes no time. -/
@[simp] theorem afterSending_now (bench : Bench) (session : Session) (text : Value) :
    (bench.afterSending session text).now = bench.now := rfl

/-- A text that is sent is replied to, whatever the reply is. -/
theorem send_returns {bench after : Bench} {session : Session} {text : Value} {reply : Reply} :
    (send session text).Returns bench reply after ↔
      reply = bench.scene.reply session text ∧ after = bench.afterSending session text := by
  rw [send, Task.returns_get_bind]
  unfold afterSending Scene.serverAfter Scene.reply
  show _ ↔ reply = (session.execute text bench.server).1 ∧ after =
    { bench with
      server := (session.execute text bench.server).2
      journal :=
        match (session.execute text bench.server).1.record with
        | some record => bench.journal.push (.debug, record)
        | none => bench.journal }
  generalize session.execute text bench.server = outcome
  obtain ⟨answer, server⟩ := outcome
  cases record : answer.record with
  | none =>
    simp only [Task.returns_bind, Task.returns_set, Task.returns_pure, record, exists_const,
      exists_eq_left]
  | some entry =>
    simp only [Task.returns_bind, Task.returns_set, Task.returns_log, Task.returns_pure, record,
      exists_const, exists_eq_left]

/-- A text that is sent and awaited returns the outcome that it is replied with. -/
theorem execute_returns {bench after : Bench} {session : Session} {text : Value}
    {outcome : Outcome} :
    (execute session text).Returns bench outcome after ↔
      (bench.scene.reply session text).result = .ok outcome ∧
        after = bench.afterSending session text := by
  simp only [execute, outcomeOf, Task.returns_bind, send_returns, Task.returns_release]
  constructor
  · rintro ⟨reply, between, ⟨rfl, rfl⟩, answered, rfl⟩
    exact ⟨answered, rfl⟩
  · rintro ⟨answered, rfl⟩
    exact ⟨_, _, ⟨rfl, rfl⟩, answered, rfl⟩

/-- The record of a rollback is all that is kept of its failure. -/
theorem recordRollback_returns {bench after : Bench} {session : Session} {reply : Reply}
    {result : Unit} (returned : (recordRollback session reply).Returns bench result after) :
    bench.Agrees after := by
  unfold recordRollback at returned
  split at returned
  · rw [Task.returns_log.1 returned]
    exact .journal bench _
  · rw [(Task.returns_pure.1 returned).2]
    exact .refl bench

/-- A rollback that is sent changes the scene by its text and takes no time. -/
theorem sendRollback_returns {bench after : Bench} {session : Session} {reply : Reply}
    (returned : (sendRollback session).Returns bench reply after) :
    reply = bench.scene.reply session (.text rollbackText) ∧
      (bench.afterSending session (.text rollbackText)).Agrees after := by
  simp only [sendRollback, Task.returns_bind, send_returns, Task.returns_pure] at returned
  obtain ⟨sent, between, ⟨rfl, rfl⟩, ⟨⟩, last, recorded, rfl, rfl⟩ := returned
  exact ⟨rfl, recordRollback_returns recorded⟩

/-- A rollback that is awaited changes the scene by its text and takes no time. -/
theorem rollback_returns {bench after : Bench} {session : Session} {result : Unit}
    (returned : (rollback session).Returns bench result after) :
    (bench.afterSending session (.text rollbackText)).Agrees after := by
  simp only [rollback, outcomeOf, Task.returns_bind, Task.returns_discard,
    Task.returns_release] at returned
  obtain ⟨reply, between, sent, outcome, _, rfl⟩ := returned
  exact (sendRollback_returns sent).2

end Bench

end SerialCheck

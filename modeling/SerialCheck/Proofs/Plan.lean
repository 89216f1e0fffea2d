import SerialCheck.Proofs.Fails
import SerialCheck.Proofs.Scene

/-!
# What stays while work goes on

Setting up the database, sending texts and drawing statements change neither the settings nor the setup
log, nor which number the next transaction gets: they keep the plan of the bench, whichever way they
end (`Task.Keeps`). `Bench.Durable` lists the single parts of that work that touch the server or the session
for setup statements; a condition that is durable, such as the plan, is upheld by everything that is made of
them.
-/
namespace SerialCheck

/-- What is decided before transactions run: the settings, the setup statements and the number of the
next transaction. -/
def Bench.plan (bench : Bench) : Settings × List Query × Nat :=
  (bench.settings, bench.setupLog, bench.nextTransaction)

namespace Task

variable {α : Type}

/-- Begun on a bench with the plan, the task leaves one with that plan. -/
def Keeps (plan : Settings × List Query × Nat) (task : Task α) : Prop :=
  ∀ bench : Bench, bench.plan = plan → (task bench).2.plan = plan

/-- What a task returns on is a bench with the plan that it began with. -/
theorem Keeps.of_returns {task : Task α} {bench after : Bench} {result : α}
    (keeps : ∀ plan, Keeps plan task) (returned : task.Returns bench result after) :
    after.plan = bench.plan := by
  have kept := keeps bench.plan bench rfl
  rw [show task bench = (.ok result, after) from returned] at kept
  exact kept

end Task

namespace Bench

open SerialCheck.Task

/-- What is seen of a bench from outside: the transactions of the last complete batch, the console and the
files. -/
def outside (bench : Bench) : List Transaction × History String × Disk :=
  (bench.lastBatch, bench.console, bench.disk)

/-- The second bench has the server of the first one, the same session for setup statements and the same
plan, no session was asked for in between, and nothing of it is seen from outside. -/
structure Beside (bench after : Bench) : Prop where
  /-- The server is as it was. -/
  server : after.server = bench.server
  /-- So is the session for setup statements. -/
  admin : after.admin = bench.admin
  /-- No session was asked for. -/
  sessionCount : after.sessionCount = bench.sessionCount
  /-- The plan is as it was. -/
  plan : after.plan = bench.plan
  /-- So is what is seen from outside. -/
  outside : after.outside = bench.outside

/-- A condition that outlasts texts that are sent, and sessions for setup statements. -/
structure Durable (holds : Bench → Prop) : Prop where
  /-- It depends on the server, the sessions, the plan and what is seen from outside only. -/
  beside : ∀ {bench after}, holds bench → bench.Beside after → holds after
  /-- Texts may be sent. -/
  sent : ∀ {bench} (session : Session) (text : Value), holds bench →
    holds { bench with server := (session.execute text bench.server).2 }
  /-- A session may be asked for in vain. -/
  refused : ∀ {bench} {address label : String} {fault : Fault} {server : Server}, holds bench →
    Session.connect address label bench.settings.lockTimeout bench.server = (.error fault, server) →
      holds { bench with server }
  /-- A session that was opened may be used for setup statements, if the one before is closed. -/
  administered : ∀ {bench} {address label : String} {session : Session} {server : Server},
    holds bench → (∀ admin ∈ bench.admin, admin.isClosed bench.server = true) →
      Session.connect address label bench.settings.lockTimeout bench.server = (.ok session, server) →
        holds { bench with server, admin := some session }

/-- A session is asked for: there is no address, or the connection is refused or granted. -/
theorem connect_cases (label : String) (bench : Bench) :
    (∃ cause, bench.settings.connection.suffix = .error cause ∧
        connect label bench = (.error (.misuse cause), bench)) ∨
      ∃ address result server journal, bench.settings.connection.suffix = .ok address ∧
        Session.connect address label bench.settings.lockTimeout bench.server = (result, server) ∧
          connect label bench = (result, { bench with server, journal }) := by
  rcases returns_or_fails (connect label) bench with ⟨session, after, ended⟩ | ⟨fault, after, ended⟩
  · have returned := ended
    rw [connect, returns_get_bind] at returned
    simp only [returns_bind, returns_use, returns_set, returns_release, returns_log,
      returns_pure] at returned
    obtain ⟨address, _, ⟨named, rfl⟩, _, _, rfl, granted, _, ⟨same, rfl⟩, _, _, rfl, rfl, rfl⟩ := returned
    exact .inr ⟨address, .ok session, _, _, named, Prod.ext same rfl, ended⟩
  · have failed := ended
    rw [connect, fails_get_bind] at failed
    simp only [fails_bind, fails_use, fails_set, fails_release, fails_log, fails_pure, returns_use,
      returns_set, false_or, or_false, and_false, exists_false] at failed
    rcases failed with ⟨cause, unnamed, rfl, rfl⟩ | ⟨address, _, ⟨named, rfl⟩, _, _, rfl, same, rfl⟩
    · exact .inl ⟨cause, unnamed, ended⟩
    · exact .inr ⟨address, .error fault, _, _, named, Prod.ext same rfl, ended⟩

namespace Durable

variable {α : Type} {holds : Bench → Prop} (durable : Durable holds)

include durable

/-- Work that leaves the server and the sessions alone upholds a durable condition. -/
theorem quiet {task : Task α} (beside : ∀ bench : Bench, bench.Beside (task bench).2) :
    Upholds holds task := fun bench held => durable.beside held (beside bench)

theorem log (level : Level) (text : String) : Upholds holds (Task.log level text) :=
  durable.quiet fun _ => ⟨rfl, rfl, rfl, rfl, rfl⟩

theorem draw (choice : Draw α) : Upholds holds (Task.draw choice) :=
  durable.quiet fun _ => ⟨rfl, rfl, rfl, rfl, rfl⟩

/-! ## Sessions -/

theorem send (session : Session) (text : Value) : Upholds holds (Bench.send session text) := by
  intro bench held
  have sent : Bench.send session text bench = (.ok _, bench.afterSending session text) :=
    send_returns.2 ⟨rfl, rfl⟩
  rw [sent]
  exact durable.beside (durable.sent session text held) ⟨rfl, rfl, rfl, rfl, rfl⟩

/-- A text may be sent, whatever comes of it. -/
theorem execute (session : Session) (text : Value) : Upholds holds (Bench.execute session text) :=
  (durable.send session text).bind fun _ => upholds_release _

theorem sendRollback (session : Session) : Upholds holds (Bench.sendRollback session) := by
  refine (durable.send _ _).bind fun reply => Upholds.bind ?_ fun _ => upholds_pure _
  unfold recordRollback
  split
  · exact durable.log _ _
  · exact upholds_pure _

theorem rollback (session : Session) : Upholds holds (Bench.rollback session) :=
  (durable.sendRollback session).bind fun _ => (upholds_release _).discard

/-- A session for setup statements may be opened, if the one before is closed. -/
theorem openAdmin {bench : Bench} (held : holds bench)
    (none : ∀ admin ∈ bench.admin, admin.isClosed bench.server = true) :
    holds (Bench.adminSession.openAdmin bench).2 := by
  have step : Bench.adminSession.openAdmin bench = (Bench.connect "admin" >>= fun session => do
      modify fun bench => { bench with admin := some session }
      return session : Task Session) bench := rfl
  rw [step, bind_apply]
  rcases connect_cases "admin" bench with
    ⟨cause, _, refused⟩ | ⟨address, result, server, journal, _, asked, ended⟩
  · rw [refused]
    exact held
  · rw [ended]
    cases result with
    | error fault => exact durable.beside (durable.refused held asked) ⟨rfl, rfl, rfl, rfl, rfl⟩
    | ok session => exact durable.beside (durable.administered held none asked) ⟨rfl, rfl, rfl, rfl, rfl⟩

/-- There is a session for setup statements, whatever comes of it if it has to be opened. -/
theorem adminSession : Upholds holds Bench.adminSession := by
  intro bench held
  have read : (get : Task Bench) bench = (.ok bench, bench) := rfl
  unfold Bench.adminSession
  rw [bind_apply, read]
  dsimp only
  cases known : bench.admin with
  | none => exact durable.openAdmin held (by simp [known])
  | some session =>
    dsimp only
    by_cases closed : session.isClosed bench.server = true
    · rw [if_pos closed]
      exact durable.openAdmin held (by simp [known, closed])
    · rw [if_neg closed]
      exact held

/-! ## The database -/

/-- A text over the session for setup statements upholds what follows it upholds. -/
theorem setup (text : Value) {next : Outcome → Task α}
    (further : ∀ outcome, Upholds holds (next outcome)) :
    Upholds holds (Bench.adminSession >>= fun session => Bench.execute session text >>= next) :=
  durable.adminSession.bind fun session => (durable.execute session text).bind further

theorem updateSchema : Upholds holds Bench.updateSchema := by
  refine durable.setup _ fun outcome => ?_
  split
  · exact upholds_throw_bind _ _
  · refine (upholds_use _).bind fun schema => Upholds.bind ?_ fun _ => ?_
    · exact durable.quiet fun _ => ⟨rfl, rfl, rfl, rfl, rfl⟩
    · split
      · exact upholds_throw_bind _ _
      · exact durable.log _ _

theorem dropEach (names : List String) : Upholds holds (Bench.dropEach names) := by
  induction names with
  | nil => exact upholds_pure _
  | cons name names hypothesis =>
    refine durable.setup _ fun outcome => ?_
    split
    · exact upholds_throw _
    · exact hypothesis

theorem replayEach (queries : List Query) : Upholds holds (Bench.replayEach queries) := by
  induction queries with
  | nil => exact upholds_pure _
  | cons query queries hypothesis =>
    refine durable.setup _ fun outcome => ?_
    split
    · exact upholds_throw _
    · exact hypothesis

/-- Dropping all tables upholds a durable condition. -/
theorem dropTables : Upholds holds Bench.dropTables := by
  refine durable.updateSchema.bind fun _ => upholds_get_bind fun bench _ => ?_
  exact (durable.dropEach _).bind fun _ => durable.quiet fun _ => ⟨rfl, rfl, rfl, rfl, rfl⟩

/-- So does restoring the database. -/
theorem reproduce : Upholds holds Bench.reproduce := by
  refine durable.dropTables.bind fun _ => upholds_get_bind fun bench _ => ?_
  exact (durable.replayEach _).bind fun _ => durable.updateSchema

/-- So does reading the contents of the tables. -/
theorem snapshot : Upholds holds Bench.snapshot := by
  refine upholds_get_bind fun bench _ => ?_
  induction bench.schema.names with
  | nil => exact upholds_pure _
  | cons name names hypothesis =>
    refine durable.setup _ fun outcome => ?_
    split
    · exact upholds_throw _
    · exact hypothesis.bind fun _ => upholds_pure _

end Durable

/-- The plan is durable. -/
theorem durable_plan (plan : Settings × List Query × Nat) : Durable (·.plan = plan) where
  beside same beside := beside.plan.trans same
  sent _ _ same := same
  refused same _ := same
  administered same _ _ := same

/-- Opening a session keeps it. -/
theorem keeps_openSession (plan : Settings × List Query × Nat) : Keeps plan openSession := by
  have connected (label : String) : Upholds (·.plan = plan) (connect label) := by
    intro bench same
    rcases connect_cases label bench with ⟨_, _, ended⟩ | ⟨_, _, _, _, _, _, ended⟩ <;>
    · rw [ended]
      exact same
  have opened : Upholds (·.plan = plan) openSession := by
    refine (upholds_modify fun bench same => ?_).bind fun _ => upholds_get_bind fun bench _ => ?_
    · exact same
    · exact connected _
  exact opened

end Bench

end SerialCheck

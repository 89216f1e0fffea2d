import SerialCheck.Session
import SerialCheck.Synthesis.TableDefinition
import SerialCheck.Transaction

/-!
# The bench

Everything that a check works on, as one value: settings, server, randomness, clock, known
tables, the log of setup statements, sessions, and what has been reported. A `Task` changes the
bench and ends with a result or a fault; what it changed before a fault stays changed.
-/
namespace SerialCheck

/-- How important a record is. -/
inductive Level where
  /-- Details of a run. -/
  | debug
  /-- Progress. -/
  | info
  /-- Something unexpected. -/
  | warning
  /-- A failure. -/
  | error
  deriving Repr, DecidableEq

namespace Level

/-- The name of a level. -/
def name : Level → String
  | .debug => "DEBUG"
  | .info => "INFO"
  | .warning => "WARNING"
  | .error => "ERROR"

/-- The rank of a level; a more important one has a greater rank. -/
def rank : Level → Nat
  | .debug => 10
  | .info => 20
  | .warning => 30
  | .error => 40

/-- Every level. -/
def all : List Level := [.debug, .info, .warning, .error]

/-- The level with a name. -/
def ofName? (name : String) : Option Level := all.find? (·.name == name)

end Level

/-- How data statements come about. -/
inductive Synthesizer where
  /-- They are drawn at random over the known tables. -/
  | grammar
  /-- They are numbered; a number of attempts fails first, and from a given call on there is a
  session fault. -/
  | scripted (failures : Value) (fault : Option (String × Value)) (calls : Int)

/-- Everything that a check works on. -/
structure Bench where
  /-- The settings. -/
  settings : Settings
  /-- The server under test. -/
  server : Server := {}
  /-- The source of random choices. -/
  randomness : Randomness
  /-- Whom to choose among transactions that can continue, if that is not left to chance. -/
  schedule : Option (List Value) := none
  /-- How data statements come about. -/
  synthesizer : Synthesizer := .grammar
  /-- The time. -/
  now : Number := .whole 0
  /-- The known tables. -/
  schema : Schema := {}
  /-- The setup statements that succeeded, in order. -/
  setupLog : List Query := []
  /-- The session for setup statements. -/
  admin : Option Session := none
  /-- How many sessions have been asked for. -/
  sessionCount : Nat := 0
  /-- The number of the next transaction. -/
  nextTransaction : Nat := 1
  /-- The transactions of the last complete batch. -/
  lastBatch : List Transaction := []
  /-- The records of what happened. -/
  journal : History (Level × String) := {}
  /-- What has been shown. -/
  console : History String := {}
  /-- The files. -/
  disk : Disk := []

/-- Work on a bench that may end in a fault. -/
abbrev Task (α : Type) := ExceptT Fault (StateM Bench) α

namespace Task

variable {α : Type}

/-- A record in the journal. -/
def log (level : Level) (text : String) : Task Unit :=
  modify fun bench => { bench with journal := bench.journal.push (level, text) }

/-- Text shown on the console. -/
def print (text : String) : Task Unit :=
  modify fun bench => { bench with console := bench.console.push text }

/-- A random choice. -/
def draw (choice : Draw α) : Task α := do
  let bench ← get
  let (value, randomness) := choice bench.randomness
  set { bench with randomness }
  return value

/-- A random choice that may fail. -/
def attempt (choice : Attempt α) : Task α := do
  match ← draw choice.run with
  | .ok value => return value
  | .error cause => throw (.ofGeneration cause)

/-- What a use of a value comes to. -/
def use : Except Misuse α → Task α
  | .ok result => pure result
  | .error cause => throw (.misuse cause)

/-- The result of a task or its fault, as a value. -/
def caught (task : Task α) : Task (Except Fault α) := fun bench =>
  match task bench with
  | (result, bench) => (.ok result, bench)

/-- The result of a value that holds a result or a fault. -/
def release : Except Fault α → Task α
  | .ok value => pure value
  | .error fault => throw fault

/-- A task and then, whether it ended in a fault or not, another one. -/
def withCleanup (task : Task α) (cleanup : Task Unit) : Task α := do
  let result ← caught task
  cleanup
  release result

end Task

namespace Bench

/-- A text is sent; the reply also tells how long it takes. -/
def send (session : Session) (text : Value) : Task Reply := do
  let bench ← get
  let (reply, server) := session.execute text bench.server
  set { bench with server }
  if let some record := reply.record then Task.log .debug record
  return reply

/-- The outcome of a reply, or its fault. -/
def outcomeOf (reply : Reply) : Task Outcome :=
  Task.release reply.result

/-- A text is sent and its outcome awaited, however long it takes. -/
def execute (session : Session) (text : Value) : Task Outcome := do
  outcomeOf (← send session text)

/-- The statement that ends a transaction without effect. -/
def rollbackText : String := "ROLLBACK"

/-- The record of a rollback that failed. -/
def recordRollback (session : Session) (reply : Reply) : Task Unit :=
  match reply.result with
  | .ok ⟨_, some report, _⟩ =>
    Task.log .debug ("[" ++ session.label ++ "] ROLLBACK failed: " ++ report)
  | _ => pure ()

/-- A rollback is sent; its failure is no concern. -/
def sendRollback (session : Session) : Task Reply := do
  let reply ← send session (.text rollbackText)
  recordRollback session reply
  return reply

/-- A rollback is sent and awaited, however long it takes. -/
def rollback (session : Session) : Task Unit := do
  discard (outcomeOf (← sendRollback session))

/-- A new session. -/
def connect (label : String) : Task Session := do
  let bench ← get
  let address ← Task.use bench.settings.connection.suffix
  let (result, server) := Session.connect address label bench.settings.lockTimeout bench.server
  set { bench with server }
  let session ← Task.release result
  Task.log .debug ("[" ++ label ++ "] Connected")
  return session

/-- A session is closed, unless it is closed already. -/
def closeSession (session : Session) : Task Unit := do
  let bench ← get
  if session.isClosed bench.server then return ()
  set { bench with server := session.close bench.server }
  Task.log .debug ("[" ++ session.label ++ "] Closed")

/-- A new session for a transaction. -/
def openSession : Task Session := do
  modify fun bench => { bench with sessionCount := bench.sessionCount + 1 }
  let number := (← get).sessionCount
  connect s!"session-{number}"

/-- The session for setup statements, opened if need be. -/
def adminSession : Task Session := do
  let bench ← get
  match bench.admin with
  | some session =>
    if session.isClosed bench.server then openAdmin else return session
  | none => openAdmin
where
  /-- A new session for setup statements. -/
  openAdmin : Task Session := do
    let session ← connect "admin"
    modify fun bench => { bench with admin := some session }
    return session

/-- The session for setup statements is given up. -/
def close : Task Unit := do
  match (← get).admin with
  | none => return ()
  | some session =>
    closeSession session
    modify fun bench => { bench with admin := none }

end Bench

end SerialCheck

import SerialCheck.Run.Serial

/-!
# Interleaved runs

At each step a transaction that can continue sends its next statement. A statement that takes
longer than the block timeout is parked, and its transaction with it, until its outcome is
there; while all transactions are parked the run waits. A lock conflict aborts the transaction:
a rollback is sent and its further statements are not.

Time is the time of the bench: a statement sent now is finished after its delay, and waiting
moves the time on.
-/
namespace SerialCheck

/-- A statement whose outcome is not there yet. -/
structure Parked where
  /-- What the transaction is known by. -/
  id : Value
  /-- The statement. -/
  statement : Statement
  /-- When it is finished. -/
  finish : Number
  /-- What it comes to. -/
  result : Except Fault Outcome

/-- How far an interleaved run has come. -/
structure Progress where
  /-- The trace so far. -/
  trace : Trace := {}
  /-- How many statements of each transaction have been sent or given up. -/
  sent : Value → Nat := fun _ => 0
  /-- The parked statements in the order in which they were sent. -/
  parked : List Parked := []

namespace Progress

/-- The progress with the number of sent statements of a transaction changed. -/
def setSent (progress : Progress) (id : Value) (count : Nat) : Progress :=
  { progress with sent := fun other => if other.alike id then count else progress.sent other }

/-- A statement of the transaction is parked. -/
def isParked (progress : Progress) (id : Value) : Bool := progress.parked.any (·.id.alike id)

/-- The transaction can send a statement now. -/
def canContinue (progress : Progress) (transaction : OpenTransaction) : Bool :=
  !progress.isParked transaction.id && progress.sent transaction.id < transaction.size

/-- The transactions that can send a statement now. -/
def runnable (progress : Progress) (batch : Batch) : Batch := batch.filter progress.canContinue

end Progress

namespace Run

/-- The time is the given one from now on. -/
def setTime (now : Number) : Task Unit := modify fun bench => { bench with now }

/-- The time that is later than now by a timeout. -/
def deadline (timeout : Value) : Task Number := do
  let time ← Task.use (timeout.addTo (← get).now)
  if time.isDecimal && time.toDecimal.isNan then throw (.misuse .undefined)
  return time

/-- Something that finishes at the given time is awaited until a deadline; true if it finished. It
is given up only if it finishes after the deadline, so a deadline that is no number never
passes. -/
def awaitUntil (deadline finish : Number) : Task Bool := do
  if deadline.lt finish then
    setTime deadline
    return false
  else
    setTime finish
    return true

/-- Something that finishes at the given time is awaited for so long, or however long it takes if
there is no timeout; true if it finished. -/
def await (finish : Number) (timeout : Value) : Task Bool := do
  if finish.le (← get).now then return true
  else
    match timeout with
    | .null =>
      setTime finish
      return true
    | timeout => awaitUntil (← deadline timeout) finish

/-- The time at which something is finished that is started now. -/
def finishTime (delay : Number) : Task Number := do
  Task.use (Value.addNumbers (← get).now delay)

/-- A rollback is sent and awaited for as long as a blocked statement would be. -/
def rollbackInTime (session : Session) : Task Unit := do
  let reply ← Bench.sendRollback session
  let finished ← await (← finishTime reply.delay) (← get).settings.statementTimeout
  if finished then discard (Bench.outcomeOf reply) else throw .timeout

/-- The trace with the given statements not sent. -/
def skipAll (trace : Trace) (statements : List Statement) : Trace :=
  { trace with results := trace.results ++ statements.map (skipped · true) }

/-- The statements behind a place, which is a whole number. -/
def behind (transaction : Transaction) (place : Value) : List Statement :=
  transaction.statements.drop ((place.count.toOption.getD 0) + 1).toNat

/-- The transaction is aborted at a statement because of a lock conflict. -/
def abortAt (transaction : OpenTransaction) (statement : Statement) (report : String)
    (progress : Progress) : Task Progress := do
  let id := transaction.id
  let place := statement.index.plain
  Task.log .debug s!"Transaction {id.plain} aborted at statement {place}: {report}"
  rollbackInTime transaction.session
  let trace := skipAll progress.trace (behind transaction.toTransaction statement.index)
  return { progress with trace := abort trace id statement.index }.setSent id transaction.size

/-- The transaction has ended with this statement: it was aborted or this was its last one. -/
def hasEnded (transaction : OpenTransaction) (statement : Statement) (trace : Trace) : Bool :=
  (trace.abortOf? transaction.id).isSome ||
    statement.index.alike (.integer ((transaction.size : Int) - 1))

/-- The progress with the end of a transaction noted, if it has ended. -/
def noteEnd (transaction : OpenTransaction) (statement : Statement) (progress : Progress) :
    Progress :=
  if hasEnded transaction statement progress.trace then
    { progress with trace := progress.trace.complete transaction.id }
  else progress

/-- The outcome of a statement is recorded. -/
def record (transaction : OpenTransaction) (statement : Statement) (outcome : Outcome)
    (blocked : Bool) (progress : Progress) : Task Progress := do
  reportUnexpected statement outcome
  let progress :=
    { progress with trace := progress.trace.record (resultOf statement outcome blocked) }
  let progress ←
    match outcome.error with
    | none => pure progress
    | some report =>
      if isLockConflict report then abortAt transaction statement report progress
      else pure progress
  return noteEnd transaction statement progress

/-- The parked statements that are finished by now are recorded, in the order in which they
were sent. -/
def settle (batch : Batch) : List Parked → Progress → Task Progress
  | [], progress => return progress
  | parked :: rest, progress => do
    if parked.finish.le (← get).now then
      let progress :=
        { progress with parked := progress.parked.filter fun other => !other.id.alike parked.id }
      let transaction ← member batch parked.id
      let outcome ← Task.release parked.result
      settle batch rest (← record transaction parked.statement outcome true progress)
    else settle batch rest progress

/-- A scheduled choice: the transaction that is next, else the first one. What is next is used
up. -/
def pickScheduled (first : OpenTransaction) (others : Batch) :
    List Value → OpenTransaction × List Value
  | [] => (first, [])
  | id :: schedule =>
    (((first :: others).find? fun transaction => transaction.id.alike id).getD first, schedule)

/-- One of the transactions that can continue. -/
def pick (first : OpenTransaction) (others : Batch) : Task OpenTransaction := do
  let bench ← get
  match bench.schedule with
  | none => Task.draw (Draw.oneOf first others)
  | some schedule =>
    let (transaction, schedule) := pickScheduled first others schedule
    set { bench with schedule := some schedule }
    return transaction

/-- A statement is sent; its outcome is recorded if it is there before the block timeout, and
else the statement is parked. -/
def sendStatement (transaction : OpenTransaction) (statement : Statement) (progress : Progress) :
    Task Progress := do
  let id := transaction.id
  let progress := progress.setSent id (progress.sent id + 1)
  let progress := { progress with trace := noteSnapshot progress.trace id statement }
  let reply ← Bench.send transaction.session statement.text
  let finish ← finishTime reply.delay
  if ← await finish (← get).settings.blockTimeout then
    record transaction statement (← Task.release reply.result) false progress
  else
    Task.log .debug ("Blocked: " ++ statement.display)
    return { progress with parked := progress.parked ++ [⟨id, statement, finish, reply.result⟩] }

/-- The next statement of a transaction is sent. -/
def sendNext (transaction : OpenTransaction) (progress : Progress) : Task Progress :=
  match transaction.statements[progress.sent transaction.id]? with
  | some statement => sendStatement transaction statement progress
  | none => return progress

/-- The time at which the first of several parked statements is finished. -/
def firstFinish (first : Parked) (others : List Parked) : Number :=
  others.foldl (fun earliest parked => earliest.earliest parked.finish) first.finish

/-- The run waits until a parked statement is finished. It is a fault if none is in time. -/
def waitForParked (first : Parked) (others : List Parked) : Task Unit := do
  let bench ← get
  let timeout := bench.settings.statementTimeout
  let deadline ← deadline timeout
  let earliest := firstFinish first others
  let now := if deadline.lt earliest then deadline else bench.now.latest earliest
  setTime now
  if deadline.lt earliest || !(first :: others).any (·.finish.le now) then
    throw (.session (.stuck timeout ((first :: others).map Parked.statement)))

/-- The run goes on for at most the given number of steps. -/
def steps (batch : Batch) : Nat → Progress → Task Trace
  | 0, _ => throw .unbounded
  | count + 1, progress => do
    let progress ← settle batch progress.parked progress
    match progress.runnable batch, progress.parked with
    | first :: others, _ =>
      steps batch count (← sendNext (← pick first others) progress)
    | [], first :: others => do
      waitForParked first others
      steps batch count progress
    | [], [] => return progress.trace

/-- How many texts rules apply to that do not apply without end. -/
def answerCount : List Rule → Nat
  | [] => 0
  | rule :: rules => (rule.times.wholePart.toOption.getD 0).toNat + answerCount rules

/-- How often chance may keep a run from its end. -/
def chances : Nat := 1000

/-- How many steps a run may take. Each statement is sent once and waited for once, and the last
step finds nothing left. Where transactions share a number, a lock conflict of one can take
another one back to an earlier statement, as often as rules answer by one, or until chance has
let the conflicting ones pass each other. -/
def stepLimit (batch : Batch) (rules : List Rule) : Nat :=
  (2 * batch.statementCount + 1) * (answerCount rules + chances)

/-- The interleaved run of a batch. -/
def interleaved (batch : Batch) : Task Trace := do
  steps batch (stepLimit batch (← get).server.rules) {}

end Run

end SerialCheck

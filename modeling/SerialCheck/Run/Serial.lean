import SerialCheck.Generation
import SerialCheck.Run.Order

/-!
# Serial runs

The transactions of a batch are run one after the other. A transaction that the reference run
saw aborted is replayed up to that point and rolled back.
-/
namespace SerialCheck

/-- The transactions that run together. -/
abbrev Batch := List OpenTransaction

namespace Batch

/-- What the transactions are known by. -/
def ids (batch : Batch) : List Value := batch.map fun transaction => transaction.id

/-- The last transaction that is known by a value. -/
def find? (batch : Batch) (id : Value) : Option OpenTransaction :=
  batch.reverse.find? fun transaction => transaction.id.alike id

/-- What makes the transactions unfit to be looked up by what they are known by. -/
def unfit? (batch : Batch) : Option Misuse := Value.unfitMember? batch.ids

/-- The number of all statements. -/
def statementCount : Batch → Nat
  | [] => 0
  | transaction :: rest => transaction.size + statementCount rest

end Batch

namespace Run

/-- A statement whose error is not expected is recorded. -/
def reportUnexpected (statement : Statement) (outcome : Outcome) : Task Unit :=
  match outcome.error with
  | none => return ()
  | some report => do
    if ← Task.use (statement.expects report) then return ()
    else Task.log .warning ("Unexpected error: " ++ statement.display ++ report)

/-- The rows that a result keeps: those of a reading statement that succeeded. -/
def keptRows (statement : Statement) (outcome : Outcome) : Option Rows :=
  if statement.kind.returnsRows && outcome.succeeded then some (outcome.rows.getD []) else none

/-- The result of a statement with an outcome. -/
def resultOf (statement : Statement) (outcome : Outcome) (blocked : Bool) : StatementResult where
  statement := statement
  blocked := .boolean blocked
  error := .ofText? outcome.error
  warning := .ofText? outcome.warning
  rows := keptRows statement outcome

/-- The result of a statement that is not sent. -/
def skipped (statement : Statement) (blocked : Bool) : StatementResult where
  statement := statement
  blocked := .boolean blocked
  executed := .boolean false

/-- The trace with an aborted transaction; a transaction has at most one abort. -/
def abort (trace : Trace) (id place : Value) : Trace :=
  { trace with abortedAt := Value.put id place trace.abortedAt }

/-- The trace of a statement that is about to be sent. -/
def noteSnapshot (trace : Trace) (id : Value) (statement : Statement) : Trace :=
  if statement.takesSnapshot then trace.snapshotBy id else trace

/-- The statement is at the place of an abort or behind it. There is no abort at null. -/
def isCut (cut : Value) (statement : Statement) : Except Misuse Bool :=
  match cut with
  | .null => .ok false
  | place => statement.index.isAtLeast place

/-- The statements of a transaction are run in order, those behind its abort excepted. -/
def replayStatements (id : Value) (session : Session) (cut : Value) :
    List Statement → Trace → Task Trace
  | [], trace => return trace
  | statement :: rest, trace => do
    if ← Task.use (isCut cut statement) then
      replayStatements id session cut rest (trace.record (skipped statement false))
    else
      let trace := noteSnapshot trace id statement
      let outcome ← Bench.execute session statement.text
      reportUnexpected statement outcome
      replayStatements id session cut rest (trace.record (resultOf statement outcome false))

/-- A transaction is run, and rolled back if the reference run saw it aborted. -/
def replay (transaction : OpenTransaction) (id cut : Value) (trace : Trace) : Task Trace := do
  let trace ← replayStatements id transaction.session cut transaction.statements trace
  match cut with
  | .null => return trace.complete id
  | place =>
    Bench.rollback transaction.session
    return (abort trace id place).complete id

/-- The transaction of a batch that is known by a value. -/
def member (batch : Batch) (id : Value) : Task OpenTransaction := do
  if let some cause := id.unfit? then throw (.misuse cause)
  match batch.find? id with
  | some transaction => return transaction
  | none => throw (.unknownTransaction id)

/-- The transactions are run in the given order. -/
def replayAll (batch : Batch) (aborts : List (Value × Value)) : List Value → Trace → Task Trace
  | [], trace => return trace
  | id :: rest, trace => do
    let transaction ← member batch id
    let cut := (Value.lookup id aborts).getD .null
    replayAll batch aborts rest (← replay transaction id cut trace)

/-- The order in which a batch is replayed: the given one or, if it is empty, the preferred
one. -/
def chosenOrder (batch : Batch) (reference : Option Trace) (order : Value) :
    Except Misuse (List Value) :=
  if order.isFilled then order.each else .ok (Order.preferred batch.ids reference)

/-- The serial run of a batch. -/
def serial (batch : Batch) (reference : Option Trace) (order : Value) : Task Trace := do
  let order ← Task.use (chosenOrder batch reference order)
  replayAll batch (reference.elim [] Trace.abortedAt) order {}

end Run

end SerialCheck

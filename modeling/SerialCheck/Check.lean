import SerialCheck.Run.Interleaved

/-!
# Checking a batch

A batch of random transactions is run interleaved and then replayed in one serial order after
the other, until a replay is consistent with the interleaved run. If none is, the first
difference is the finding.
-/
namespace SerialCheck

/-- How the transactions of a batch are run. -/
inductive Strategy where
  /-- With statements of different transactions in between each other. -/
  | interleaved
  /-- One transaction after the other. -/
  | serialized
  deriving Repr, DecidableEq

namespace Strategy

/-- The name of a strategy. -/
def name : Strategy → String
  | .interleaved => "INTERLEAVED"
  | .serialized => "SERIALIZED"

/-- The strategy with a name. -/
def ofName? (name : String) : Option Strategy :=
  [interleaved, serialized].find? fun strategy => strategy.name == name

/-- The word for a strategy in records. -/
def word : Strategy → String
  | .interleaved => "interleaved"
  | .serialized => "serialized"

end Strategy

namespace Run

/-- The transactions are run by a strategy. -/
def byStrategy (batch : Batch) (reference : Option Trace) (order : Value) :
    Strategy → Task Trace
  | .interleaved => interleaved batch
  | .serialized => serial batch reference order

/-- A batch is run from the initial state of the database; the trace also has the contents of
the tables afterwards. -/
def run (batch : Batch) (strategy : Strategy) (reference : Option Trace) (order : Value) :
    Task Trace := do
  Bench.reproduce
  Task.log .debug s!"Running {batch.length} transactions ({strategy.word})"
  if let some cause := batch.unfit? then throw (.misuse cause)
  let trace ← byStrategy batch reference order strategy
  return { trace with finalState := ← Bench.snapshot }

end Run

namespace Check

/-- The verdict on a test run against a serial run, as a task. -/
def compare (test serial : Trace) : Task Verdict :=
  match Comparison.compare test serial with
  | .ok verdict => return verdict
  | .error cause => throw (.ofIncomparable cause)

/-- A finding in one order is recorded. -/
def recordDivergence (order : List Value) (finding : Finding) : Task Unit :=
  Task.log .debug s!"Serial order {(Value.array order).literal} diverges: {finding.reason.name}"

/-- Orders are replayed until one is consistent with the test run. If none is, the verdict is
the first finding. -/
def searchOrders (batch : Batch) (test : Trace) : Option Finding → List (List Value) → Task Verdict
  | first, [] => return first.elim .consistent .inconsistent
  | first, order :: orders => do
    let serial ← Run.run batch .serialized (some test) (.array order)
    match ← compare test serial with
    | .consistent => return .consistent
    | .inconsistent finding =>
      recordDivergence order finding
      searchOrders batch test (first.or (some finding)) orders

/-- The transactions of a batch are generated one after the other. If one of them fails, those
before it are in the second part of the result. -/
def generateEach : Nat → Batch → Task (Except Fault Batch × Batch)
  | 0, batch => return (.ok batch, batch)
  | count + 1, batch => do
    match ← Task.caught Generation.transaction with
    | .ok transaction => generateEach count (batch ++ [transaction])
    | .error fault => return (.error fault, batch)

/-- Given transactions as a batch, each with a new session. -/
def openEach : List Transaction → Task Batch
  | [] => return []
  | transaction :: rest => do
    let session ← Bench.openSession
    let opened : OpenTransaction := { transaction with session }
    return opened :: (← openEach rest)

/-- The sessions of a batch are closed. -/
def closeEach : Batch → Task Unit
  | [] => return ()
  | transaction :: rest => do
    Bench.closeSession transaction.session
    closeEach rest

/-- A generated batch is run interleaved and in serial orders. -/
def checkBatch (batch : Batch) : Task Verdict := do
  modify fun bench => { bench with lastBatch := batch.map OpenTransaction.toTransaction }
  let test ← Run.run batch .interleaved none .null
  let order := Order.preferred batch.ids (some test)
  let limit ← Task.use (Order.limitOf (← get).settings.maxOrders order.length)
  searchOrders batch test none (Order.candidates limit order)

/-- The verdict on a batch is recorded. -/
def recordVerdict (batch : Batch) : Verdict → Task Unit
  | .consistent => Task.log .debug s!"Consistent: {batch.length} transactions"
  | .inconsistent finding => Task.log .info ("Inconsistent: " ++ finding.reason.name)

/-- A batch is generated and checked. Its sessions are closed whichever way this ends. -/
def evaluate : Task Verdict := do
  let count ← Task.use (← get).settings.batchSize.count
  let (generated, batch) ← generateEach count.toNat []
  let verdict ← Task.withCleanup (do checkBatch (← Task.release generated)) (closeEach batch)
  recordVerdict batch verdict
  return verdict

end Check

end SerialCheck

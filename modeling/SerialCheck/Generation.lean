import SerialCheck.Bench.Setup
import SerialCheck.Random.Bounds

/-!
# Generating transactions

A transaction gets a session, an opening statement, data statements of random kinds and a
closing statement. If it cannot be finished its session is closed and the generation fails as
a whole.
-/
namespace SerialCheck

/-- A transaction with the session that runs it. -/
structure OpenTransaction extends Transaction where
  /-- The session. -/
  session : Session

namespace Synthesizer

/-- The errors that scripted data statements expect. -/
def scriptedErrors : ExpectedErrors := .ofList ["scripted", "deadlock detected"]

/-- The session fault that is due from a given call on. -/
def dueFault? (calls : Int) : Option (String × Value) → Except Misuse (Option String)
  | none => .ok none
  | some (text, first) => do
    return if ← (Value.integer calls).isAtLeast first then some text else none

/-- The failures that are left after one more, none if there are none left. -/
def takeFailure? (failures : Value) : Except Misuse (Option Value) := do
  if ← failures.isAbove (.integer 0) then return some (← failures.plus (.integer (-1)))
  else return none

/-- A scripted data statement. -/
def scriptedData (failures : Value) (fault : Option (String × Value)) (calls : Int)
    (kind : StatementKind) : Except Fault Query × Synthesizer :=
  let calls := calls + 1
  let scripted := fun failures => Synthesizer.scripted failures fault calls
  match dueFault? calls fault with
  | .error cause => (.error (.misuse cause), scripted failures)
  | .ok (some text) => (.error (.session (.reported text)), scripted failures)
  | .ok none =>
    match takeFailure? failures with
    | .error cause => (.error (.misuse cause), scripted failures)
    | .ok (some left) =>
      (.error (.generation (.reported ("no table yet (" ++ left.plain ++ " left)"))), scripted left)
    | .ok none =>
      (.ok ⟨.text s!"{kind.name} statement {calls}", scriptedErrors, false⟩, scripted failures)

/-- A statement of a kind. -/
def statement (kind : StatementKind) : Task Query := do
  let bench ← get
  match bench.synthesizer with
  | .grammar => Task.attempt (drawStatement bench.schema bench.settings.isolationLevel kind)
  | .scripted failures fault calls =>
    if kind.isControl then return ⟨.text kind.name, .none, false⟩
    else
      let (result, synthesizer) := scriptedData failures fault calls kind
      set { bench with synthesizer }
      Task.release result

end Synthesizer

namespace Generation

/-- The errors in which concurrent execution of independent transactions can always end. -/
def conflictErrors : List String := ["deadlock detected", "could not serialize access"]

/-- A kind of data statement. -/
abbrev DataKind := { kind : StatementKind // kind.isControl = false }

/-- The data kinds among kinds of statements. -/
def dataKinds (kinds : List StatementKind) : List DataKind :=
  kinds.filterMap fun kind =>
    if known : kind.isControl = false then some ⟨kind, known⟩ else none

/-- One attempt to make a data statement. The kind is drawn anew each time. -/
def tryData : Task (DataKind × Except GenerationFault Query) := do
  let kind ← Task.attempt (Attempt.member (dataKinds (← get).settings.enabled))
  match ← Task.caught (Synthesizer.statement kind.val) with
  | .ok query => return (kind, .ok query)
  | .error (.generation cause) => return (kind, .error cause)
  | .error fault => throw fault

/-- A data statement, for which further attempts are made if the first one fails. -/
def dataStatement (attempts : Value) : Nat → Task (DataKind × Query)
  | 0 => do
    match ← tryData with
    | (kind, .ok query) => return (kind, query)
    | (_, .error cause) => throw (.generation (.exhausted attempts cause))
  | further + 1 => do
    match ← tryData with
    | (kind, .ok query) => return (kind, query)
    | (_, .error _) => dataStatement attempts further

/-- A data statement of a transaction. -/
abbrev DataItem := { statement : Statement // statement.kind.isControl = false }

/-- As many data statements as given, from the given place on. -/
def dataStatements (id : Int) : Nat → Nat → Task (List DataItem)
  | 0, _ => return []
  | count + 1, index => do
    let attempts := (← get).settings.generationAttempts
    let (kind, query) ← dataStatement attempts ((← Task.use attempts.count).toNat - 1)
    let item : DataItem :=
      ⟨⟨.integer id, .integer index, kind.val, query.text,
        query.expected.withPatterns conflictErrors, []⟩, kind.property⟩
    return item :: (← dataStatements id count (index + 1))

/-- A kind of closing statement. -/
abbrev ClosingKind := { kind : StatementKind // kind.isTerminal = true }

/-- The kind of the closing statement. -/
def drawClosing : Task ClosingKind := do
  let rollback ← Task.attempt (Attempt.chance (← get).settings.rollbackProbability)
  return if rollback then ⟨.rollback, rfl⟩ else ⟨.commit, rfl⟩

/-- The opening statement, which expects the error of a table that changes under a statement. -/
def openingOf (id : Int) (query : Query) :
    Task { opening : Statement // opening.kind = .begin } := do
  match (← get).settings.schemaChangedError with
  | .text pattern =>
    return ⟨⟨.integer id, .integer 0, .begin, query.text, query.expected.withPatterns [pattern],
      []⟩, rfl⟩
  | stray =>
    if let some cause := stray.unfit? then throw (.misuse cause)
    return ⟨⟨.integer id, .integer 0, .begin, query.text, query.expected, [stray]⟩, rfl⟩

/-- The statements of a transaction with as many data statements as given. -/
def statements (id : Int) (given : Value) : Task Transaction := do
  let opening ← openingOf id (← Synthesizer.statement .begin)
  let size := (← Task.use given.count).toNat
  let data ← dataStatements id size 1
  let kind ← drawClosing
  let closing ← Synthesizer.statement kind.val
  return {
    id := .integer id
    opening := opening.val
    data := data.map Subtype.val
    closing :=
      ⟨.integer id, .integer (size + 1), kind.val, closing.text, closing.expected, []⟩
    opens := opening.property
    dataOnly := fun _ member => by
      obtain ⟨item, _, rfl⟩ := List.mem_map.1 member
      exact item.property
    closes := kind.property }

/-- The number of the next transaction. -/
def nextId : Task Int := do
  let number := (← get).nextTransaction
  modify fun bench => { bench with nextTransaction := number + 1 }
  return number

/-- The fault in which a generation ends that met another fault. -/
def faultOf (id : Int) : Fault → Fault
  | .session cause => .generation (.session id cause)
  | fault => fault

/-- The fault is one after which the session of the transaction is closed. -/
def closesSession : Fault → Bool
  | .session _ => true
  | .generation _ => true
  | _ => false

/-- The number of data statements of a transaction, drawn from the range of the settings; the
lower end of the range if it has no members. -/
def drawSize : Task Value := do
  let settings := (← get).settings
  let beyond ← Task.use settings.maxSize.successor
  Task.attempt (Attempt.between settings.minSize beyond)

/-- A transaction with a session of its own. -/
def transaction : Task OpenTransaction := do
  let size ← drawSize
  let id ← nextId
  match ← Task.caught Bench.openSession with
  | .error fault => throw (faultOf id fault)
  | .ok session =>
    match ← Task.caught (statements id size) with
    | .error fault =>
      if closesSession fault then Bench.closeSession session
      throw (faultOf id fault)
    | .ok transaction =>
      Task.log .debug s!"Generated transaction {id} with {size.plain} data statements"
      return { transaction with session }

end Generation

end SerialCheck

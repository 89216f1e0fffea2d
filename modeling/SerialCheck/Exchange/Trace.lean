import SerialCheck.Exchange.Statement
import SerialCheck.Trace
import SerialCheck.Verdict

/-!
# Traces and verdicts in documents

A result names its statement by its place among given statements or describes it. What is left
out of a trace or a result is as in a trace of nothing and in the result of a statement that
succeeded.
-/
namespace SerialCheck

/-- The result that a document describes. -/
def StatementResult.ofJson (given : List Statement) (document : Json) :
    Exchange StatementResult := do
  return {
    statement := ← Statement.ofReference given (← document.need "statement")
    blocked := document.valueIn "blocked" (.boolean false)
    error := document.valueIn "error_info" .null
    warning := document.valueIn "warning_info" .null
    rows := ← Value.rowsOfJson? (document.field "rows")
    executed := document.valueIn "executed" (.boolean true) }

/-- The contents of tables that the members of an object describe. -/
def Contents.ofJson (members : List (String × Json)) : Exchange Contents :=
  members.mapM fun (name, rows) => do return (name, ← Value.rowsOfJson? rows)

/-- The aborts that the members of an object describe. Of two for one transaction the later one
counts, in the place of the earlier one. -/
def abortsOfJson : List (Value × Value) → List (String × Json) → Exchange (List (Value × Value))
  | aborts, [] => .ok aborts
  | aborts, (name, place) :: members => do
    let id ← Exchange.use (Value.text name).wholePart
    abortsOfJson (Value.put (.integer id) (.verbatim place) aborts) members

/-- The trace that a document describes. -/
def Trace.ofJson (given : List Statement) (document : Json) : Exchange Trace := do
  document.needObject
  return {
    results := ← (← document.listIn "statement_results").mapM (StatementResult.ofJson given)
    finalState := ← Contents.ofJson (← document.namedIn "final_state")
    completionOrder := ← document.valuesIn "completion_order"
    snapshotOrder := ← document.valuesIn "snapshot_order"
    abortedAt := ← abortsOfJson [] (← document.namedIn "aborted_at") }

/-- The reason that a document names. -/
def Reason.ofJson (document : Json) : Exchange Reason :=
  match (document.text?).bind ofName? with
  | some reason => .ok reason
  | none => .error (.reason (Value.verbatim document).literal)

/-- The names that no evidence can have: those of the other parts of a finding. -/
def ownNames : List String := ["cls", "reason", "detail", "statement"]

/-- The finding that a document describes. -/
def Finding.ofJson (document : Json) : Exchange Finding := do
  let statement ←
    if (document.field "statement").isFilled then
      some <$> Statement.ofJson (document.field "statement")
    else pure none
  let evidence ← (← document.namedIn "evidence").mapM fun (name, value) => do
    return (name, ← Value.evidenceOfJson value)
  let reason ← Reason.ofJson (← document.need "reason")
  let detail := document.valueIn "detail" (.text "")
  match (evidence.map Prod.fst).find? ownNames.contains with
  | some name => throw (.repeated name)
  | none => return { reason, detail, statement, evidence }

/-- The verdict that a document describes. -/
def Verdict.ofJson (document : Json) : Exchange Verdict := do
  if document.isNull then return .consistent
  document.needObject
  if (document.field "consistent").isFilled then return .consistent
  return .inconsistent (← Finding.ofJson document)

end SerialCheck

import SerialCheck.Json.Writer
import SerialCheck.Synthesis.DataStatement
import SerialCheck.Trace
import SerialCheck.Transaction
import SerialCheck.Verdict

/-!
# Reports

Traces and verdicts as JSON documents, and a finding with all that is needed to reproduce it.
How values are written is left to the reader of a document.
-/
namespace SerialCheck.Report

/-- The name of a number that has no digits, or the number's text. -/
def realText : Binary64 → String
  | .nan => "NaN"
  | .infinite negative => if negative then "-Infinity" else "Infinity"
  | value => value.text

mutual

/-- A value. What JSON has no form for is written as its text. -/
def ofValue : Value → Json
  | .null => .null
  | .boolean value => .boolean value
  | .integer value => .integer value
  | .real value => .number (realText value)
  | .text value => .text value
  | .row members => .array (ofValues members)
  | .array members => .array (ofValues members)
  | .mapping entries => .object (ofEntries entries)
  | .decimal value => .text value.text
  | .bytes value => .text (Value.bytes value).plain
  | .buffer value => .text (Value.buffer value).plain

/-- The members of a list. -/
def ofValues : List Value → List Json
  | [] => []
  | member :: members => ofValue member :: ofValues members

/-- Named values. -/
def ofEntries : List (String × Value) → List (String × Json)
  | [] => []
  | (name, value) :: entries => (name, ofValue value) :: ofEntries entries

end

/-- How values are written. -/
abbrev Encoding := Value → Json

/-- A statement. -/
def ofStatement (encode : Encoding) (statement : Statement) : Json := .object [
  ("tx_id", encode statement.transaction),
  ("index", encode statement.index),
  ("type", .text statement.kind.name),
  ("text", encode statement.text),
  ("expected_errors",
    .array (statement.expected.patterns.map .text ++ statement.strays.map encode))]

/-- Optional rows. -/
def ofRows? (encode : Encoding) (rows : Option Rows) : Json :=
  rows.elim .null fun rows => .array (rows.map encode)

/-- The result of a statement. -/
def ofResult (encode : Encoding) (result : StatementResult) : Json := .object [
  ("statement", ofStatement encode result.statement),
  ("blocked", encode result.blocked),
  ("error_info", encode result.error),
  ("warning_info", encode result.warning),
  ("rows", ofRows? encode result.rows),
  ("executed", encode result.executed)]

/-- The contents of tables. -/
def ofContents (encode : Encoding) (contents : Contents) : Json :=
  .object (contents.map fun (name, rows) => (name, ofRows? encode rows))

/-- The places at which transactions were aborted. -/
def ofAborts (encode : Encoding) (aborts : List (Value × Value)) : Json :=
  .object (aborts.map fun (id, place) => (id.plain, encode place))

/-- A trace. -/
def ofTrace (encode : Encoding) (trace : Trace) : Json := .object [
  ("statement_results", .array (trace.results.map (ofResult encode))),
  ("final_state", ofContents encode trace.finalState),
  ("completion_order", .array (trace.completionOrder.map encode)),
  ("snapshot_order", .array (trace.snapshotOrder.map encode)),
  ("aborted_at", ofAborts encode trace.abortedAt)]

/-- Named values. -/
def ofEvidence (encode : Encoding) (evidence : List (String × Value)) : Json :=
  .object (evidence.map fun (name, value) => (name, encode value))

/-- A verdict. -/
def ofVerdict (encode : Encoding) : Verdict → Json
  | .consistent => .object [
    ("consistent", .boolean true),
    ("reason", .null),
    ("detail", .text ""),
    ("statement", .null),
    ("evidence", .object [])]
  | .inconsistent finding => .object [
    ("consistent", .boolean false),
    ("reason", .text finding.reason.name),
    ("detail", encode finding.detail),
    ("statement", finding.statement.elim .null (ofStatement encode)),
    ("evidence", ofEvidence encode finding.evidence)]

/-- The statements of a transaction. -/
def ofTransaction (transaction : Transaction) : Json :=
  .array (transaction.statements.map (ofStatement ofValue))

/-- A finding with the seed, the setup log and the transactions that led to it. -/
def document (seed : Value) (setupLog : List Query) (batch : List Transaction)
    (finding : Finding) : Json := .object [
  ("seed", ofValue seed),
  ("init_queries", .array (setupLog.map fun query => ofValue query.text)),
  ("transactions", .array (batch.map ofTransaction)),
  ("verdict", ofVerdict ofValue (.inconsistent finding))]

end SerialCheck.Report

import SerialCheck.Exchange.Server
import SerialCheck.Exchange.Settings
import SerialCheck.Exchange.Trace
import SerialCheck.Generation
import SerialCheck.Report

/-!
# Benches in documents

A bench is described by its settings, its server, the seed and the first words of its random
choices, whom to choose among transactions, how statements come about, and the known tables. What
comes of work on it is written as documents.
-/
namespace SerialCheck

/-- How data statements come about as a document says: at random if it is null. -/
def Synthesizer.ofJson (document : Json) : Exchange Synthesizer := do
  if document.isNull then return .grammar
  document.needObject
  let first := document.valueIn "fault_at" (.integer 1)
  let fault :=
    match document.field "fault" with
    | .null => none
    | report => some (report.plain, first)
  return .scripted (document.valueIn "failures" (.integer 0)) fault 0

/-- The source of random choices that a document describes. -/
def Randomness.ofJson (document : Json) : Exchange Randomness := do
  let words := (← document.valuesIn "words").map fun word =>
    (word.wholePart.toOption.getD 0).toNat.toUInt32
  Exchange.use (Randomness.ofValue (document.valueIn "seed" (.integer 0)) words)

/-- The bench that a document describes. -/
def Bench.ofJson (document : Json) : Exchange Bench := do
  return {
    settings := ← Settings.ofJson (document.field "config")
    server := ← Server.ofJson (document.field "server")
    randomness := ← Randomness.ofJson document
    schedule := ←
      match document.field "schedule" with
      | .null => pure none
      | _ => some <$> document.valuesIn "schedule"
    synthesizer := ← Synthesizer.ofJson (document.field "synth")
    schema := ← Schema.ofJson (document.field "tables") }

/-- Setup statements that a member of a document lists. -/
def Query.setupIn (document : Json) (name : String) : Exchange (List Query) := do
  return (← document.valuesIn name).map fun text => ⟨text, .none, false⟩

/-- The transactions that documents describe. -/
def Transaction.ofList (documents : List Json) : Exchange (List Transaction) :=
  documents.mapM Transaction.ofJson

namespace Level

/-- The ranks of the levels by their names. -/
def ranks : List (String × Int) := [
  ("CRITICAL", 50), ("FATAL", 50), ("ERROR", 40), ("WARN", 30), ("WARNING", 30), ("INFO", 20),
  ("DEBUG", 10), ("NOTSET", 0)]

/-- The rank that a value asks for, by itself or by the name of a level. -/
def rankOf (value : Value) : Exchange Int :=
  match value with
  | .integer rank => .ok rank
  | .boolean value => .ok (if value then 1 else 0)
  | .text name => ((ranks.lookup name).map .ok).getD (.error (.level (Text.quoted name)))
  | value => .error (.levelKind value.literal)

/-- The least rank of records that a document asks for. Zero leaves it to the default, which is
that of warnings. -/
def leastIn (document : Json) : Exchange Int := do
  let rank ← rankOf (document.valueIn "log_level" (.text Level.info.name))
  return if rank = 0 then Level.warning.rank else rank

end Level

/-- The document of the records of a bench that have at least the given rank. -/
def Bench.journalJson (least : Int) (bench : Bench) : Json :=
  .array ((bench.journal.toList.filter fun record => least ≤ record.1.rank).map
    fun (level, text) => .array [.text level.name, .text text])

/-- The document of a query. -/
def Query.toJson (query : Query) : Json := .object [
  ("text", query.text.toJson),
  ("expected_errors", .ofTexts query.expected.patterns),
  ("could_affect_schema", .boolean query.changesSchema)]

/-- The document of an outcome. -/
def Outcome.toJson (outcome : Outcome) : Json := .object [
  ("rows", Report.ofRows? Value.toJson outcome.rows),
  ("error", .ofText? outcome.error),
  ("warning", .ofText? outcome.warning),
  ("success", .boolean outcome.succeeded)]

/-- The document of a transaction with its session. -/
def OpenTransaction.toJson (transaction : OpenTransaction) : Json := .object [
  ("tx_id", transaction.id.toJson),
  ("session", .text transaction.session.label),
  ("statements", .array (transaction.statements.map (Report.ofStatement Value.toJson)))]

end SerialCheck

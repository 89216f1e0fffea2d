import SerialCheck.ErrorClass
import SerialCheck.Rows
import SerialCheck.Statement

/-!
# Traces

What a run of several transactions leaves behind: the result of each statement, the contents
of the tables afterwards, and the orders in which transactions took their snapshots and ended. The
parts of a trace that is read from a document may be any values.
-/
namespace SerialCheck

/-- The result of one statement of a run. -/
structure StatementResult where
  /-- The statement. -/
  statement : Statement
  /-- The statement waited for a lock, so its result depends on timing. -/
  blocked : Value := .boolean false
  /-- The engine's error report, null if there is none. -/
  error : Value := .null
  /-- The engine's warnings, null if there are none. -/
  warning : Value := .null
  /-- The rows that it returned. -/
  rows : Option Rows := none
  /-- The statement was sent to the engine. -/
  executed : Value := .boolean true

namespace StatementResult

/-- The statement waited for a lock. -/
def isBlocked (result : StatementResult) : Bool := result.blocked.isFilled

/-- The engine reported an error. -/
def failed (result : StatementResult) : Bool := result.error != .null

/-- The engine reported warnings. -/
def warned (result : StatementResult) : Bool := result.warning != .null

/-- The statement failed because of a lock conflict. Only a text can be classified. -/
def isLockConflict (result : StatementResult) : Except Misuse Bool :=
  match result.error with
  | .null => .ok false
  | .text report => .ok (SerialCheck.isLockConflict report)
  | report => .error (.operation report.kindName "lower")

end StatementResult

/-- The contents of tables by name, none for a table that could not be read. -/
abbrev Contents := List (String × Option Rows)

/-- What a run leaves behind. -/
structure Trace where
  /-- The results in the order in which they became known. -/
  results : List StatementResult := []
  /-- The contents of the tables after the run. -/
  finalState : Contents := []
  /-- The transactions in the order in which they ended. -/
  completionOrder : List Value := []
  /-- The transactions in the order in which they sent their first data statement. -/
  snapshotOrder : List Value := []
  /-- The transactions that the engine aborted, each with the place of the statement at which
  it did. -/
  abortedAt : List (Value × Value) := []

namespace Trace

/-- The first result of a statement. -/
def resultFor? (trace : Trace) (statement : Statement) : Option StatementResult :=
  trace.results.find? fun result => result.statement.alike statement

/-- The place at which a transaction was aborted. -/
def abortOf? (trace : Trace) (transaction : Value) : Option Value :=
  Value.lookup transaction trace.abortedAt

/-- The trace with one more result. -/
def record (trace : Trace) (result : StatementResult) : Trace :=
  { trace with results := trace.results ++ [result] }

/-- The trace with one more ended transaction. -/
def complete (trace : Trace) (transaction : Value) : Trace :=
  { trace with completionOrder := trace.completionOrder ++ [transaction] }

/-- The trace with one more transaction that took its snapshot. -/
def snapshotBy (trace : Trace) (transaction : Value) : Trace :=
  { trace with snapshotOrder := trace.snapshotOrder ++ [transaction] }

end Trace

end SerialCheck

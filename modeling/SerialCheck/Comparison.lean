import SerialCheck.Trace
import SerialCheck.Verdict

/-!
# Comparing traces

A test trace is compared with the trace of a serial run: each statement that was not blocked
with its counterpart, in the order of the test trace, and then the tables. The first
difference decides. Lock conflicts of the test run alone are no difference, since concurrent
execution may produce them.
-/
namespace SerialCheck

/-- Optional rows as a value. -/
def Value.ofRows? (rows : Option Rows) : Value := rows.elim .null .array

/-- Texts as a value. -/
def Value.ofTexts (texts : List String) : Value := .array (texts.map .text)

namespace Comparison

/-- The finding about the errors of one statement. -/
def errorFinding (reason : Reason) (detail : String) (test serial : StatementResult) : Finding where
  reason := reason
  detail := .text detail
  statement := some test.statement
  evidence := [("test_error", test.error), ("oracle_error", serial.error)]

/-- The finding about the warnings of one statement. -/
def warningFinding (test serial : StatementResult) : Finding where
  reason := .warning
  detail := .text <|
    if test.warned = serial.warned then "Inconsistent warning info"
    else "Inconsistent reporting warning"
  statement := some test.statement
  evidence := [("test_warning", test.warning), ("oracle_warning", serial.warning)]

/-- The finding about the rows of one statement. -/
def rowsFinding (test serial : StatementResult) (difference : Rows.Difference) : Finding where
  reason := .resultSet
  detail := .text ("Inconsistent query result: " ++ difference.message)
  statement := some test.statement
  evidence := [("test_rows", .ofRows? test.rows), ("oracle_rows", .ofRows? serial.rows)]

/-- The difference between the warnings or the rows of one statement. -/
def effectFinding? (test serial : StatementResult) : Option Finding :=
  if !test.warning.alike serial.warning then some (warningFinding test serial)
  else if test.statement.kind.returnsRows then
    (Rows.difference? test.rows serial.rows).map (rowsFinding test serial)
  else none

/-- The difference between the results of one statement: errors are looked at first, then
warnings, then rows. -/
def statementFinding? (test serial : StatementResult) : Except Misuse (Option Finding) :=
  if test.failed ≠ serial.failed then
    test.isLockConflict.map fun isConflict =>
      if isConflict then none
      else some (errorFinding .errorReporting "Inconsistent reporting error" test serial)
  else if test.failed && !test.error.alike serial.error then
    .ok (some (errorFinding .errorDetail "Inconsistent error info" test serial))
  else .ok (effectFinding? test serial)

/-- The finding about a table that only one side has. -/
def missingTable (name : String) : Finding where
  reason := .finalState
  detail := .text s!"Inconsistent final database state: table {name} is missing on one side"
  evidence := [("table", .text name)]

/-- How many rows of each side a finding shows. -/
def shownRows : Int := 5

/-- The finding about the contents of a table. -/
def tableFinding (name : String) (test serial : Option Rows) (difference : Rows.Difference) :
    Finding :=
  let (onlyTest, onlySerial) :=
    Rows.mismatches shownRows (test.getD []) (serial.getD [])
  { reason := .finalState
    detail := .text (s!"Inconsistent final database state of {name}: " ++ difference.message)
    evidence :=
      [("table", .text name), ("only_in_test", .ofTexts onlyTest),
        ("only_in_oracle", .ofTexts onlySerial)] }

/-- The difference between the contents of one table. -/
def contentsFinding? (test serial : Contents) (name : String) : Option Finding :=
  match test.lookup name, serial.lookup name with
  | some left, some right =>
    (Rows.difference? left right).map (tableFinding name left right)
  | _, _ => some (missingTable name)

/-- The names of the tables of both sides, in ascending order. -/
def tableNames (test serial : Contents) : List String :=
  distinct (test.map Prod.fst ++ serial.map Prod.fst)

/-- The verdict on the tables after the runs: the first table that differs decides. -/
def finalVerdict (test serial : Trace) : Verdict :=
  match (tableNames test.finalState serial.finalState).findSome?
      (contentsFinding? test.finalState serial.finalState) with
  | some finding => .inconsistent finding
  | none => .consistent

/-- Why two runs cannot be compared. -/
inductive Incomparable where
  /-- A statement of the test run has no counterpart in the serial run. -/
  | noCounterpart (statement : Statement)
  /-- An error report cannot be classified. -/
  | misuse (cause : Misuse)

/-- The description of why two runs cannot be compared. -/
def Incomparable.message : Incomparable → String
  | .noCounterpart statement => "No oracle result for statement: " ++ statement.display
  | .misuse cause => cause.message

/-- The first difference among the results of the test run, if each result up to there has a
counterpart. -/
def firstFinding? (serial : Trace) :
    List StatementResult → Except Incomparable (Option Finding)
  | [] => .ok none
  | test :: rest =>
    if test.isBlocked then firstFinding? serial rest
    else
      match serial.resultFor? test.statement with
      | none => .error (.noCounterpart test.statement)
      | some counterpart =>
        match statementFinding? test counterpart with
        | .error cause => .error (.misuse cause)
        | .ok (some finding) => .ok (some finding)
        | .ok none => firstFinding? serial rest

/-- The verdict on a test run against a serial run. -/
def compare (test serial : Trace) : Except Incomparable Verdict :=
  (firstFinding? serial test.results).map fun
    | some finding => .inconsistent finding
    | none => finalVerdict test serial

end Comparison

end SerialCheck

import SerialCheck.Statement
import SerialCheck.Value.Use

/-!
# Verdicts

The outcome of comparing two traces: they are consistent, or a finding says where and how they
differ first.
-/
namespace SerialCheck

/-- How two traces differ. -/
inductive Reason where
  /-- Only one run reported an error. -/
  | errorReporting
  /-- Both runs reported an error, with different texts. -/
  | errorDetail
  /-- The warnings differ. -/
  | warning
  /-- The returned rows differ. -/
  | resultSet
  /-- The tables differ after the runs. -/
  | finalState
  deriving Repr, DecidableEq

namespace Reason

/-- Every reason. -/
def all : List Reason := [.errorReporting, .errorDetail, .warning, .resultSet, .finalState]

/-- The name of a reason. -/
def name : Reason → String
  | .errorReporting => "reporting error mismatch"
  | .errorDetail => "error detail mismatch"
  | .warning => "warning mismatch"
  | .resultSet => "result-set mismatch"
  | .finalState => "final state mismatch"

/-- The reason with a name. -/
def ofName? (name : String) : Option Reason := all.find? (·.name == name)

/-- A reason has exactly one name. -/
theorem ofName?_name (reason : Reason) : ofName? reason.name = some reason := by
  cases reason <;> decide

end Reason

/-- The first difference of two traces. -/
structure Finding where
  /-- The kind of difference. -/
  reason : Reason
  /-- The difference in words. -/
  detail : Value := .text ""
  /-- The statement at which it was found, if it was found at one. -/
  statement : Option Statement := none
  /-- What each side has, by name. -/
  evidence : List (String × Value) := []

/-- The outcome of comparing two traces. -/
inductive Verdict where
  /-- The traces agree. -/
  | consistent
  /-- The traces differ. -/
  | inconsistent (finding : Finding)

namespace Verdict

/-- The traces agree. -/
def isConsistent : Verdict → Bool
  | .consistent => true
  | .inconsistent _ => false

/-- The lines by which a finding is shown: its reason, its statement and what it has in words. -/
def lines (finding : Finding) : List Value :=
  let place := finding.statement.elim [] fun statement => [.text statement.display]
  let detail := if finding.detail.isFilled then [finding.detail] else []
  .text ("Error: Inconsistent (" ++ finding.reason.name ++ ")") :: place ++ detail

/-- The text by which a verdict is shown. It is a misuse to show words that are no text. -/
def display : Verdict → Except Misuse String
  | .consistent => .ok "Consistent"
  | .inconsistent finding => return "\n".intercalate (← Value.texts (lines finding))

end Verdict

end SerialCheck

import SerialCheck.Bench
import SerialCheck.Text.Lines
import SerialCheck.Verdict

/-!
# What is shown

Status lines, headings and findings on the console, with the control sequences for colours.
-/
namespace SerialCheck.Display

/-- A control sequence with a number. -/
def control (code : String) : String := "\x1b[" ++ code ++ "m"

/-- Cyan text. -/
def cyan : String := control "96"

/-- Green text. -/
def green : String := control "92"

/-- Red text. -/
def red : String := control "91"

/-- Blue text. -/
def blue : String := control "94"

/-- Bold text. -/
def bold : String := control "1"

/-- Faint text. -/
def dim : String := control "2"

/-- Plain text. -/
def reset : String := control "0"

/-- A line in a style. -/
def line (style text : String) : Task Unit := Task.print (style ++ text ++ reset ++ "\n")

/-- A plain line. -/
def plain (text : String) : Task Unit := Task.print (text ++ "\n")

/-- A piece of information. -/
def info (message : String) : Task Unit := line cyan ("ℹ " ++ message)

/-- A success. -/
def success (message : String) : Task Unit := line green ("✓ " ++ message)

/-- A failure. -/
def error (message : String) : Task Unit := line red ("✗ " ++ message)

/-- A heading. -/
def header (text : String) : Task Unit := line (bold ++ blue) ("\n# " ++ text ++ "\n")

/-- A heading of a part. -/
def subheader (text : String) : Task Unit := line bold ("\n## " ++ text ++ "\n")

/-- A value with its label. -/
def metric (label value : String) : Task Unit :=
  plain (dim ++ label ++ ":" ++ reset ++ " " ++ value)

/-- Several lines in a style. -/
def lines (style : String) : List String → Task Unit
  | [] => return ()
  | text :: texts => do
    line style text
    lines style texts

/-- A transaction with its number as a block of statements. -/
def transaction (number script : String) : Task Unit := do
  metric "Transaction" number
  line dim "```sql"
  lines cyan (Text.lines script)
  line dim "```\n"

/-- The evidence of a finding, each value as a literal unless it is a text. -/
def evidence : List (String × Value) → Task Unit
  | [] => return ()
  | (name, value) :: rest => do
    metric name value.plain
    evidence rest

/-- A task with a spinner shown around it, however it ends. -/
def spinner {α : Type} (status : String) (task : Task α) : Task α := do
  plain ("<spinner cyan " ++ status ++ ">")
  Task.withCleanup task (plain "</spinner>")

/-- The transactions of a batch. -/
def transactions : List Transaction → Task Unit
  | [] => return ()
  | shown :: rest => do
    transaction shown.id.plain shown.script
    transactions rest

/-- A finding with the transactions that it was made with. -/
def finding (finding : Finding) (batch : List Transaction) : Task Unit := do
  error ("Inconsistency found: " ++ finding.reason.name)
  plain ""
  plain (← Task.use (Verdict.inconsistent finding).display)
  subheader "Transactions"
  transactions batch
  if !finding.evidence.isEmpty then
    subheader "Evidence"
    evidence finding.evidence

end SerialCheck.Display

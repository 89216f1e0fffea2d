import SerialCheck.Comparison
import SerialCheck.Disk
import SerialCheck.Settings

/-!
# Faults

What can keep a batch from reaching a verdict, as causes; the wording of each is in its
`message`. A difference between two runs is a verdict and not a fault.
-/
namespace SerialCheck

/-- A failure of a session or of the setup of the database. -/
inductive SessionFault where
  /-- The connection was refused. -/
  | refused (label report : String)
  /-- The session is closed. -/
  | closed (label : String)
  /-- The connection was lost while a statement ran. -/
  | lost (label report : String)
  /-- The catalog could not be read. -/
  | schemaUnreadable (report : String)
  /-- A setup statement failed. -/
  | setupFailed (report text : String)
  /-- A table could not be dropped. -/
  | dropFailed (table report : String)
  /-- A setup statement failed when it was replayed. -/
  | replayFailed (report text : String)
  /-- The wanted number of tables could not be created. -/
  | tablesMissing (wanted : Value)
  /-- The contents of a table could not be read. -/
  | snapshotFailed (table report : String)
  /-- Blocked statements did not complete. -/
  | stuck (timeout : Value) (statements : List Statement)
  /-- A failure reported from outside. -/
  | reported (text : String)

/-- The description of a session fault. -/
def SessionFault.message : SessionFault → String
  | .refused label report => "Could not open " ++ label ++ ": " ++ Text.trim report
  | .closed label => "[" ++ label ++ "] Session is closed"
  | .lost label report => "[" ++ label ++ "] Connection lost: " ++ Text.trim report
  | .schemaUnreadable report => "Could not read schema: " ++ report
  | .setupFailed report text => "Unexpected error during setup: " ++ report ++ "\n" ++ text
  | .dropFailed table report => "Could not drop " ++ table ++ ": " ++ report
  | .replayFailed report text => "Init query failed on replay: " ++ report ++ "\n" ++ text
  | .tablesMissing wanted => "Could not create " ++ wanted.plain ++ " tables"
  | .snapshotFailed table report => "Could not snapshot " ++ table ++ ": " ++ report
  | .stuck timeout statements =>
    "Statements did not complete within " ++ timeout.plain ++ "s: " ++
      ", ".intercalate (statements.map Statement.display)
  | .reported text => text

/-- Why a statement or a transaction could not be generated. -/
inductive GenerationFault where
  /-- There is no table. -/
  | noTable
  /-- There is nothing to choose from. -/
  | emptyChoice
  /-- There is nothing to choose a subset of. -/
  | emptySubset
  /-- The session failed while a transaction was generated. -/
  | session (transaction : Int) (cause : SessionFault)
  /-- Too many attempts in a row failed, the last one for the given cause. -/
  | exhausted (attempts : Value) (last : GenerationFault)
  /-- A value was misused meanwhile, which is more than a failure to generate. -/
  | misuse (cause : Misuse)
  /-- A failure reported from outside. -/
  | reported (text : String)

/-- The description of a generation fault. -/
def GenerationFault.message : GenerationFault → String
  | .noTable => "No table exists yet"
  | .emptyChoice => "Cannot choose from an empty list"
  | .emptySubset => "Cannot choose a subset of an empty list"
  | .session transaction cause =>
    s!"Session fault while generating transaction {transaction}: " ++ cause.message
  | .exhausted attempts last =>
    "Synthesizer abandoned " ++ attempts.plain ++ " consecutive statements: " ++ last.message
  | .misuse cause => cause.message
  | .reported text => text

/-- Anything that keeps a batch from reaching a verdict. -/
inductive Fault where
  /-- A failure of a session. -/
  | session (cause : SessionFault)
  /-- A statement or transaction could not be generated. -/
  | generation (cause : GenerationFault)
  /-- A statement of the test run has no counterpart. -/
  | contract (statement : Statement)
  /-- A rollback did not complete in time. -/
  | timeout
  /-- There is no transaction that is known by the value. -/
  | unknownTransaction (id : Value)
  /-- The server answered with a warning in place of an outcome. -/
  | warning (report : String)
  /-- The settings are not valid. -/
  | settings (cause : SettingsError)
  /-- A value was used for what its kind is not made for. -/
  | misuse (cause : Misuse)
  /-- A file cannot be read or written. -/
  | file (cause : FileFault)
  /-- The interleaved run took more steps than its batch allows. -/
  | unbounded

/-- The fault that a failed generation is. A misuse of a value is none of generation. -/
def Fault.ofGeneration : GenerationFault → Fault
  | .misuse cause => .misuse cause
  | cause => .generation cause

/-- The fault of runs that cannot be compared. -/
def Fault.ofIncomparable : Comparison.Incomparable → Fault
  | .noCounterpart statement => .contract statement
  | .misuse cause => .misuse cause

/-- The description of a fault. -/
def Fault.message : Fault → String
  | .session cause => cause.message
  | .generation cause => cause.message
  | .contract statement => (Comparison.Incomparable.noCounterpart statement).message
  | .timeout => ""
  | .unknownTransaction id => id.literal
  | .warning report => report
  | .settings cause => cause.message
  | .misuse cause => cause.message
  | .file cause => cause.message
  | .unbounded => "The run does not end"

end SerialCheck

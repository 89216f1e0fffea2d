import SerialCheck.Check
import SerialCheck.CommandLine
import SerialCheck.Display
import SerialCheck.Report

/-!
# Campaigns

A campaign prepares a database and then checks one batch after the other, until there is a
finding or the number of iterations is reached. The exit code is 0 if all batches were
consistent, 1 if there is a finding and 2 if the command line, the settings or a session are at
fault.
-/
namespace SerialCheck.Campaign

/-- The database is made by a script if the settings name one, and else at random. -/
def prepare : Task Unit := do
  let script := (← get).settings.script
  if script.isFilled then Bench.loadScript script.plain else Bench.generateDatabase

/-- Numbers of files are below this one. -/
def fileNumberLimit : Nat := 2147483648

/-- The disk with a text in the open file with a number. Only the three standard streams are open,
and what they take is not kept. -/
def writeOpen (disk : Disk) (number : Int) : Except FileFault Disk :=
  if number < -fileNumberLimit || fileNumberLimit ≤ number then .error (.noPath "int")
  else if number < 0 then .error .negativeNumber
  else if number ≤ 2 then .ok disk
  else .error .notOpen

/-- The disk with a text in the file that a value names, by its path or by its number. -/
def writtenTo (disk : Disk) (text : String) : Value → Except FileFault Disk
  | .text path => disk.write path text
  | .integer number => writeOpen disk number
  | .boolean _ => .ok disk
  | value => .error (.noPath value.kindName)

/-- A text is written to the file that a value names. -/
def writeFile (file : Value) (text : String) : Task Unit := do
  match writtenTo (← get).disk text file with
  | .ok disk => modify fun bench => { bench with disk }
  | .error cause => throw (.file cause)

/-- The report on a finding is written to a file. -/
def writeReport (file : Value) (finding : Finding) : Task Unit := do
  let bench ← get
  let document :=
    Report.document bench.randomness.seed bench.setupLog bench.lastBatch finding
  writeFile file (document.render .indented 0)
  Display.info ("Report written to " ++ file.plain)

/-- A finding is shown and, if a file is named, reported. -/
def conclude (output : Value) (finding : Finding) : Task Unit := do
  Display.finding finding (← get).lastBatch
  if output.isFilled then writeReport output finding

/-- What one iteration comes to: a verdict, or the cause for which it was abandoned. -/
def iterate (evaluate : Nat → Task Verdict) (iteration : Nat) (count : Value) :
    Task (Except GenerationFault Verdict) := do
  let task := Display.spinner s!"Iteration {iteration}/{count.plain}" (evaluate iteration)
  match ← Task.caught task with
  | .ok verdict => return .ok verdict
  | .error (.generation cause) => return .error cause
  | .error fault => throw fault

/-- Batches are checked until there is a finding, for at most as many further iterations as
given. The result is the exit code. -/
def iterations (evaluate : Nat → Task Verdict) (output count : Value) :
    Nat → Nat → Nat → Task Int
  | 0, _, abandoned => do
    let seed := (← get).randomness.seed.plain
    Display.success s!"{count.plain} iterations consistent ({abandoned} abandoned, seed {seed})"
    return 0
  | further + 1, iteration, abandoned => do
    match ← iterate evaluate iteration count with
    | .error cause =>
      Task.log .debug s!"Iteration {iteration} abandoned: {cause.message}"
      iterations evaluate output count further (iteration + 1) (abandoned + 1)
    | .ok .consistent => iterations evaluate output count further (iteration + 1) abandoned
    | .ok (.inconsistent finding) =>
      conclude output finding
      return 1

/-- The loop over all iterations; `evaluate` checks the batch of an iteration. -/
def loop (evaluate : Nat → Task Verdict) (output : Value) : Task Int := do
  let count := (← get).settings.iterations
  let beyond ← Task.use (count.successor >>= Value.count)
  iterations evaluate output count (beyond - 1).toNat 1 0

/-- The database is prepared and batches are checked. -/
def work (output : Value) : Task Int := do
  prepare
  let names ← Task.use (Value.texts (← get).schema.keys)
  Display.info ("Tables: " ++ ", ".intercalate names)
  loop (fun _ => Check.evaluate) output

/-- A session fault ends the work with its exit code. -/
def guarded (task : Task Int) : Task Int := do
  match ← Task.caught task with
  | .error (.session cause) =>
    Task.log .error ("Session fault: " ++ cause.message)
    Display.error ("Session fault: " ++ cause.message)
    return 2
  | result => Task.release result

/-- A campaign from its heading to its exit code. -/
def campaign (output : Value) : Task Int := do
  let bench ← get
  Display.header "Transaction Oracle"
  Display.metric "Database" bench.settings.connection.plain
  Display.metric "Seed" bench.randomness.seed.plain
  Task.withCleanup (guarded (work output)) Bench.close

/-- How the program ended. -/
structure Ending where
  /-- The exit code, or the fault that ended it. -/
  code : Except Fault Int
  /-- The least level of the records that were asked for, if it came to that. -/
  level : Option Level
  /-- The complaint about the command line. -/
  complaint : Option CommandLine.UsageError
  /-- The bench afterwards. -/
  bench : Bench

/-- The level of the records that a request asks for. -/
def levelOf (request : CommandLine.Request) : Level :=
  if request.verbose then .debug else .info

/-- The exit code for a wrong command line or wrong settings. -/
def refusal : Int := 2

/-- The ending of a task on a bench. -/
def finish (request : CommandLine.Request) (bench : Bench) (task : Task Int) : Ending :=
  let (code, bench) := task bench
  ⟨code, some (levelOf request), none, bench⟩

/-- The seed that settings give, or the given one if they leave it open. -/
def seedOf (settings : Settings) (seed : Int) : Value :=
  match settings.seed with
  | .null => .integer seed
  | seed => seed

/-- The bench of a campaign. -/
def benchOf (settings : Settings) (server : Server) (disk : Disk) (randomness : Randomness) :
    Bench where
  settings := settings
  server := server
  randomness := randomness
  disk := disk

/-- The program: its arguments, its environment, the server under test, the files, and the seed
that is used if none is given. -/
def launch (arguments : List String) (environment : List (String × String)) (server : Server)
    (disk : Disk) (seed : Int) : Ending :=
  let idle := benchOf {} server disk (.ofSeed seed [])
  match CommandLine.parse arguments with
  | .error complaint => ⟨.ok refusal, none, some complaint, idle⟩
  | .ok request =>
    match CommandLine.loadSettings request environment with
    | .error (.misuse cause) => finish request idle (throw (.misuse cause))
    | .error error =>
      finish request idle do
        Display.error ("Invalid configuration: " ++ error.message)
        return refusal
    | .ok settings =>
      match Randomness.ofValue (seedOf settings seed) [] with
      | .error cause => finish request idle (throw (.misuse cause))
      | .ok randomness =>
        finish request (benchOf settings server disk randomness) (campaign request.output)

end SerialCheck.Campaign

import SerialCheck.Campaign

/-!
# The program

Reads the environment and the files that a campaign may use, launches the campaign on the
built-in server, and passes on what it showed, recorded and wrote.
-/
namespace SerialCheck.Main

/-- The variables that are set among those that settings are read from. -/
def readEnvironment : IO (List (String × String)) :=
  Settings.variableNames.filterMapM fun name => do
    return (← IO.getEnv name).map (name, ·)

/-- The text of a file, if it can be read. -/
def readText? (path : String) : IO (Option String) := do
  try
    return some (← IO.FS.readFile path)
  catch _ =>
    return none

/-- The paths that a value names: itself if it is a text that is not empty. -/
def pathsOf : Value → List String
  | .text path => if path.isEmpty then [] else [path]
  | _ => []

/-- The script that a request and the environment name. -/
def scripts (request : CommandLine.Request) (environment : List (String × String)) :
    List String :=
  match CommandLine.loadSettings request environment with
  | .ok settings => pathsOf settings.script
  | .error _ => []

/-- The files that a request may use: its script, if it can be read, and its report. Whether a
report can be written shows when it is. -/
def readDisk (request : CommandLine.Request) (environment : List (String × String)) :
    IO Disk := do
  let found ← (scripts request environment).filterMapM fun path => do
    return (← readText? path).map (Disk.normalPath path, ·)
  return found ++ (pathsOf request.output).map fun path => (Disk.normalPath path, "")

/-- The files that differ from what they were are written. -/
def writeDisk (before after : Disk) : IO Unit :=
  after.forM fun (path, text) => do
    if before.lookup path ≠ some text then IO.FS.writeFile path text

/-- The records of at least the given level are written to the error stream. -/
def writeJournal (least : Level) (bench : Bench) : IO Unit :=
  bench.journal.toList.forM fun (level, text) => do
    if least.rank ≤ level.rank then IO.eprintln (level.name ++ " - " ++ text)

/-- What an ended campaign showed, recorded and wrote is passed on. -/
def passOn (before : Disk) (ending : Campaign.Ending) : IO UInt32 := do
  IO.print (String.join ending.bench.console.toList)
  writeJournal (ending.level.getD .info) ending.bench
  writeDisk before ending.bench.disk
  if let some complaint := ending.complaint then IO.eprintln ("error: " ++ complaint.message)
  match ending.code with
  | .ok code => return code.toNat.toUInt32
  | .error fault =>
    IO.eprintln ("error: " ++ fault.message)
    return 1

/-- A campaign with the given arguments. -/
def run (arguments : List String) : IO UInt32 := do
  let environment ← readEnvironment
  let seed ← IO.rand 0 0xFFFFFFFF
  match CommandLine.parse arguments with
  | .error _ => passOn [] (Campaign.launch arguments environment {} [] seed)
  | .ok request =>
    if request.help then
      IO.print CommandLine.helpText
      return 0
    else
      let disk ← readDisk request environment
      passOn disk (Campaign.launch arguments environment {} disk seed)

end SerialCheck.Main

/-- The program. -/
def main (arguments : List String) : IO UInt32 := SerialCheck.Main.run arguments

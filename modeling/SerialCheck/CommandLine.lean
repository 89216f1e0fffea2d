import SerialCheck.Settings

/-!
# The command line

Options are recognized by their names, by unambiguous beginnings of long names, and with a
value behind an equals sign. Every argument is first read on its own (`Token`), and the tokens
are then taken from the left.
-/
namespace SerialCheck.CommandLine

/-- The options of the program. -/
inductive Flag where
  /-- Asks for help. -/
  | help
  /-- How the database is reached. -/
  | connection
  /-- How many batches are checked. -/
  | iterations
  /-- How many transactions run together. -/
  | batchSize
  /-- The least number of data statements of a transaction. -/
  | minSize
  /-- The greatest number of data statements of a transaction. -/
  | maxSize
  /-- The isolation level that transactions ask for. -/
  | isolationLevel
  /-- The kinds of statements that are not generated. -/
  | disable
  /-- How many tables are generated. -/
  | tableCount
  /-- A script that is run instead of generating tables. -/
  | script
  /-- The seed of the random choices. -/
  | seed
  /-- The file for the report. -/
  | output
  /-- Asks for more records. -/
  | verbose
  deriving Repr, DecidableEq

namespace Flag

/-- Every option, in the order in which they are listed. -/
def all : List Flag :=
  [.help, .connection, .iterations, .batchSize, .minSize, .maxSize, .isolationLevel, .disable,
    .tableCount, .script, .seed, .output, .verbose]

/-- The names of an option. -/
def names : Flag → List String
  | .help => ["-h", "--help"]
  | .connection => ["--db-connection"]
  | .iterations => ["--iterations"]
  | .batchSize => ["--tx-count"]
  | .minSize => ["--tx-size-min"]
  | .maxSize => ["--tx-size-max"]
  | .isolationLevel => ["--isolation-level"]
  | .disable => ["--disable"]
  | .tableCount => ["--num-tables"]
  | .script => ["--init-script"]
  | .seed => ["--seed"]
  | .output => ["--output"]
  | .verbose => ["--verbose", "-v"]

/-- All names of an option in one text. -/
def display (flag : Flag) : String := "/".intercalate flag.names

/-- What an option is for. -/
def purpose : Flag → String
  | .help => "show this text"
  | .connection => "how the database is reached"
  | .iterations => "how many batches are checked"
  | .batchSize => "how many transactions run together"
  | .minSize => "least number of data statements of a transaction"
  | .maxSize => "greatest number of data statements of a transaction"
  | .isolationLevel => "isolation level that transactions ask for"
  | .disable => "statement kinds that are not generated, separated by commas"
  | .tableCount => "how many tables are generated"
  | .script => "script that is run instead of generating tables"
  | .seed => "seed of the random choices"
  | .output => "file for the report on a finding"
  | .verbose => "show more records"

/-- The option stands alone and has no value. -/
def isSwitch : Flag → Bool
  | .help | .verbose => true
  | _ => false

/-- The value of the option is a whole number. -/
def isWhole : Flag → Bool
  | .iterations | .batchSize | .minSize | .maxSize | .tableCount | .seed => true
  | _ => false

/-- All names with their options, in the order in which they are listed. -/
def table : List (String × Flag) := all.flatMap fun flag => flag.names.map (·, flag)

/-- The line of an option in the help text. -/
def helpLine (flag : Flag) : String :=
  let argument := if flag.isSwitch then "" else " VALUE"
  "  " ++ ", ".intercalate flag.names ++ argument ++ ": " ++ flag.purpose ++ "\n"

end Flag

/-- The text that explains the options. -/
def helpText : String := "usage: [options]\n\n" ++ String.join (Flag.all.map Flag.helpLine)

/-- What is wrong with a command line. -/
inductive UsageError where
  /-- The beginning of a name fits several names. -/
  | ambiguous (given : String) (names : List String)
  /-- The value of an option is missing. -/
  | missingValue (flag : Flag)
  /-- The value of an option is not a whole number. -/
  | notWhole (flag : Flag) (value : String)
  /-- An option without a value is given one. -/
  | unusedValue (flag : Flag) (value : String)
  /-- Arguments belong to no option. -/
  | unrecognized (arguments : List String)

/-- The description of an error of usage. -/
def UsageError.message : UsageError → String
  | .ambiguous given names =>
    "ambiguous option: " ++ given ++ " could match " ++ ", ".intercalate names
  | .missingValue flag => "argument " ++ flag.display ++ ": expected one argument"
  | .notWhole flag value =>
    "argument " ++ flag.display ++ ": invalid int value: " ++ Text.quoted value
  | .unusedValue flag value =>
    "argument " ++ flag.display ++ ": ignored explicit argument " ++ Text.quoted value
  | .unrecognized arguments => "unrecognized arguments: " ++ " ".intercalate arguments

/-- What an argument is. -/
inductive Token where
  /-- A value. -/
  | value (text : String)
  /-- The mark behind which all arguments are values. -/
  | separator
  /-- An option by the given name, perhaps with a text attached to it. -/
  | option (flag : Flag) (name : String) (attached : Option String)
  /-- Something like an option that is none. -/
  | unknown (text : String)

/-- The mark behind which all arguments are values. -/
def separatorText : String := "--"

/-- A text cut at its first equals sign, if it has one. -/
def cutAtEquals? (text : String) : Option (String × String) :=
  let chars := text.toList
  if chars.contains '=' then
    some (String.ofList (chars.takeWhile (· != '=')),
      String.ofList ((chars.dropWhile (· != '=')).drop 1))
  else none

/-- The options that a beginning of a long name fits. -/
def longMatches (text : String) : List (Flag × String × Option String) :=
  let (start, attached) :=
    match cutAtEquals? text with
    | some (start, value) => (start, some value)
    | none => (text, none)
  (Flag.table.filter fun entry => Text.startsWith entry.1 start).map fun (name, flag) =>
    (flag, name, attached)

/-- The options that a short name, with a text attached to it, fits. -/
def shortMatches (text : String) : List (Flag × String × Option String) :=
  let short := Text.takeChars 2 text
  (Flag.table.filter fun entry => entry.1 == short).map fun (name, flag) =>
    (flag, name, some (Text.dropChars 2 text))

/-- The characters are decimal digits and perhaps a line feed at the end. -/
def areDigits : List Char → Bool
  | [] => true
  | ['\n'] => true
  | char :: rest => (Text.digitValue? char).isSome && areDigits rest

/-- The characters behind a minus sign make a number. -/
def isNumber (chars : List Char) : Bool :=
  let startsDigit := (chars.head?.bind Text.digitValue?).isSome
  let fraction := (chars.dropWhile fun char => (Text.digitValue? char).isSome)
  (startsDigit && areDigits chars) ||
    match fraction with
    | '.' :: first :: rest => (Text.digitValue? first).isSome && areDigits rest
    | _ => false

/-- What an argument is that begins with a minus sign and is no name of an option. -/
def readUnnamed (text : String) : Except UsageError Token :=
  let found := if Text.startsWith text "--" then longMatches text else shortMatches text
  match found with
  | [(flag, name, attached)] => .ok (.option flag name attached)
  | _ :: _ :: _ => .error (.ambiguous text (found.map fun entry => entry.2.1))
  | [] =>
    if isNumber (text.toList.drop 1) || Text.contains text " " then .ok (.value text)
    else .ok (.unknown text)

/-- What an argument is, the separator aside. -/
def readToken (text : String) : Except UsageError Token :=
  if !Text.startsWith text "-" || text == "-" then .ok (.value text)
  else
    match Flag.table.lookup text with
    | some flag => .ok (.option flag text none)
    | none =>
      match cutAtEquals? text with
      | none => readUnnamed text
      | some (name, value) =>
        match Flag.table.lookup name with
        | some flag => .ok (.option flag name (some value))
        | none => readUnnamed text

/-- What the arguments are. -/
def readTokens : List String → Except UsageError (List Token)
  | [] => .ok []
  | text :: texts =>
    if text == separatorText then .ok (.separator :: texts.map .value)
    else do
      let token ← readToken text
      return token :: (← readTokens texts)

/-- What the command line asks for. -/
structure Request where
  /-- Changes to the settings. -/
  changes : Settings.Changes := {}
  /-- The kinds of statements that are not generated, as a text. -/
  disable : Value := .null
  /-- The file for the report. -/
  output : Value := .null
  /-- More records are asked for. -/
  verbose : Bool := false
  /-- Help is asked for. -/
  help : Bool := false

namespace Request

/-- The request with the value of an option. -/
def place (request : Request) (flag : Flag) (value : Value) : Request :=
  let changes := request.changes
  match flag with
  | .help => { request with help := true }
  | .verbose => { request with verbose := true }
  | .disable => { request with disable := value }
  | .output => { request with output := value }
  | .connection => { request with changes := { changes with connection := some value } }
  | .isolationLevel => { request with changes := { changes with isolationLevel := some value } }
  | .script => { request with changes := { changes with script := some value } }
  | .iterations => { request with changes := { changes with iterations := some value } }
  | .batchSize => { request with changes := { changes with batchSize := some value } }
  | .minSize => { request with changes := { changes with minSize := some value } }
  | .maxSize => { request with changes := { changes with maxSize := some value } }
  | .tableCount => { request with changes := { changes with tableCount := some value } }
  | .seed => { request with changes := { changes with seed := some value } }

/-- The request with the value of an option, given as a text. The separator in place of a value
leaves nothing, which is an empty list. -/
def set (request : Request) (flag : Flag) (text : String) : Except UsageError Request :=
  if text == separatorText then .ok (request.place flag (.array []))
  else if flag.isWhole then
    match Text.readInteger? text with
    | some number => .ok (request.place flag (.integer number))
    | none => .error (.notWhole flag text)
  else .ok (request.place flag (.text text))

/-- The request with a switch turned on. -/
def turnOn (request : Request) (flag : Flag) : Request :=
  match flag with
  | .help => { request with help := true }
  | .verbose => { request with verbose := true }
  | _ => request

end Request

/-- The request with a short switch and the switches attached to it, of which every character
names one. -/
def turnOnCluster (request : Request) (flag : Flag) : List Char → Except UsageError Request
  | [] => .error (.unusedValue flag "")
  | char :: rest =>
    match Flag.table.lookup (String.ofList ['-', char]) with
    | none => .error (.unusedValue flag (String.ofList (char :: rest)))
    | some next =>
      if rest.isEmpty then .ok ((request.turnOn flag).turnOn next)
      else turnOnCluster (request.turnOn flag) next rest

/-- The request with a switch. A text attached to a long name is never used; one attached to a
short name holds more switches. -/
def turnOnSwitch (request : Request) (flag : Flag) (name : String) :
    Option String → Except UsageError Request
  | none => .ok (request.turnOn flag)
  | some text =>
    if Text.startsWith name "--" then .error (.unusedValue flag text)
    else turnOnCluster request flag text.toList

/-- The request that tokens amount to, and the arguments that belong to no option. Nothing is read
behind a request for help. -/
def takeTokens (request : Request) (extra : List String) :
    List Token → Except UsageError (Request × List String)
  | [] => .ok (request, extra)
  | .value text :: rest => takeTokens request (extra ++ [text]) rest
  | .unknown text :: rest => takeTokens request (extra ++ [text]) rest
  | .separator :: rest => takeTokens request (extra ++ [separatorText]) rest
  | .option flag name attached :: rest =>
    if flag.isSwitch then
      match turnOnSwitch request flag name attached with
      | .error error => .error error
      | .ok request =>
        if request.help then .ok (request, extra) else takeTokens request extra rest
    else
      match attached, rest with
      | some text, rest =>
        match request.set flag text with
        | .error error => .error error
        | .ok request => takeTokens request extra rest
      | none, .value text :: rest =>
        match request.set flag text with
        | .error error => .error error
        | .ok request => takeTokens request extra rest
      | none, _ => .error (.missingValue flag)

/-- The request that arguments amount to. -/
def parse (arguments : List String) : Except UsageError Request := do
  let tokens ← readTokens arguments
  let (request, extra) ← takeTokens {} [] tokens
  if extra.isEmpty || request.help then return request
  else throw (.unrecognized extra)

/-- The kinds of statements that a request disables, if it names any. -/
def disabledKinds (request : Request) : Except SettingsError (Option (List StatementKind)) :=
  match request.disable with
  | .text names => if names.isEmpty then .ok none else some <$> Settings.parseKinds names
  | _ => .ok none

/-- The settings of the environment changed by a request. -/
def loadSettings (request : Request) (environment : List (String × String)) :
    Except SettingsError Settings := do
  let settings ← Settings.ofEnvironment (Settings.environmentOf environment)
  let disabled ← disabledKinds request
  (settings.apply { request.changes with disabled }).validate

end SerialCheck.CommandLine

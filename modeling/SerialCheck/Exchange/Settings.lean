import SerialCheck.Exchange.Statement
import SerialCheck.Settings

/-!
# Settings in documents

A document of settings is an object with a member for each setting that differs from its
default. The disabled kinds are a list of names; every other setting may be any value. Every
member is read before one is refused because there is no such setting. The variables that settings
are read from are the members of an object.
-/
namespace SerialCheck.Settings

/-- A setting that may be any value. -/
structure Field where
  /-- The name. -/
  name : String
  /-- The setting in settings. -/
  get : Settings → Value
  /-- Settings with the setting changed. -/
  set : Settings → Value → Settings

/-- Every setting other than the disabled kinds. -/
def fields : List Field := [
  ⟨"db_connection", connection, fun settings value => { settings with connection := value }⟩,
  ⟨"tx_size_min", minSize, fun settings value => { settings with minSize := value }⟩,
  ⟨"tx_size_max", maxSize, fun settings value => { settings with maxSize := value }⟩,
  ⟨"tx_count", batchSize, fun settings value => { settings with batchSize := value }⟩,
  ⟨"rollback_probability", rollbackProbability,
    fun settings value => { settings with rollbackProbability := value }⟩,
  ⟨"max_generation_attempts", generationAttempts,
    fun settings value => { settings with generationAttempts := value }⟩,
  ⟨"isolation_level", isolationLevel,
    fun settings value => { settings with isolationLevel := value }⟩,
  ⟨"schema_changed_error", schemaChangedError,
    fun settings value => { settings with schemaChangedError := value }⟩,
  ⟨"block_timeout", blockTimeout, fun settings value => { settings with blockTimeout := value }⟩,
  ⟨"statement_timeout", statementTimeout,
    fun settings value => { settings with statementTimeout := value }⟩,
  ⟨"max_serial_orders", maxOrders, fun settings value => { settings with maxOrders := value }⟩,
  ⟨"lock_timeout_ms", lockTimeout, fun settings value => { settings with lockTimeout := value }⟩,
  ⟨"num_tables", tableCount, fun settings value => { settings with tableCount := value }⟩,
  ⟨"rows_per_table", insertsPerTable,
    fun settings value => { settings with insertsPerTable := value }⟩,
  ⟨"iterations", iterations, fun settings value => { settings with iterations := value }⟩,
  ⟨"seed", seed, fun settings value => { settings with seed := value }⟩,
  ⟨"init_script", script, fun settings value => { settings with script := value }⟩]

/-- The name of the disabled kinds. -/
def disabledName : String := "disabled_actions"

/-- The name of the kinds that are left, which follow from the disabled ones. -/
def enabledName : String := "enabled_actions"

/-- The kinds of statements that a document lists by their names. -/
def kindsOfJson (document : Json) : Exchange (List StatementKind) := do
  let names ← Exchange.use (Value.verbatim document).each
  return kindSet (← names.mapM StatementKind.ofValue)

/-- What a member of a document changes in settings, if there is such a setting. -/
abbrev Change := Option (Settings → Settings)

/-- The change of a setting to a value. -/
def changeTo (name : String) (value : Value) : Change :=
  (fields.find? (·.name == name)).map fun field settings => field.set settings value

/-- The change that a member of a document describes. -/
def changeOf (name : String) (document : Json) : Exchange Change :=
  if name == disabledName then do
    let disabled ← kindsOfJson document
    return some fun settings => { settings with disabled }
  else changeTo name <$> Value.ofJson document

/-- Settings with named changes made one after the other. -/
def change (settings : Settings) : List (String × Change) → Exchange Settings
  | [] => .ok settings
  | (_, some make) :: changes => change (make settings) changes
  | (name, none) :: _ => .error (.setting name)

/-- The settings that a document describes. -/
def ofJson (document : Json) : Exchange Settings := do
  change {} (← (← document.named).mapM fun (name, value) => do
    return (name, ← changeOf name value))

/-- The result of reading a setting. -/
def reading {α : Type} (result : Except SettingsError α) : Exchange α :=
  result.mapError .settings

/-- The change that a value in place of a setting makes. The disabled kinds are a text. -/
def overrideBy (name : String) (value : Value) : Exchange Change :=
  if name == disabledName then do
    let disabled ← reading (parseKindsOf value)
    return some fun settings => { settings with disabled }
  else return changeTo name value

/-- Settings with other values for those settings that the members of a document name. Null stands
for no other value. -/
def override (settings : Settings) (document : Json) : Exchange Settings := do
  let values ← (← document.named).mapM fun (name, value) => do
    return (name, ← Value.ofJson value)
  let given := values.filter fun (_, value) => value != .null
  change settings (← given.mapM fun (name, value) => do return (name, ← overrideBy name value))

/-- The variables that an object describes, whose values may be of any kinds. -/
def environmentOfJson (document : Json) : Exchange Environment := do
  document.allowObject
  return document.members.map fun (name, value) => (name, .verbatim value)

/-- The character zero occurs in a text. -/
def hasZero (text : String) : Bool := text.toList.contains '\x00'

/-- A variable of a process, whose value is a text and whose name is one that can be set. -/
def variableOf (name : String) : Value → Exchange (String × String)
  | .text value =>
    if hasZero name || hasZero value then .error .variableZero
    else if name.toList.contains '=' then .error .variableName
    else if name.isEmpty then .error .variableNameless
    else .ok (name, value)
  | value => .error (.variableKind value.kindName)

/-- The variables of a process that an object describes. -/
def variablesOfJson (document : Json) : Exchange (List (String × String)) := do
  (← document.named).mapM fun (name, value) => variableOf name (.verbatim value)

/-- The names of kinds in ascending order. -/
def kindNames (kinds : List StatementKind) : Json :=
  .ofTexts (sortTexts (kinds.map StatementKind.name))

/-- The document of settings, with the kinds that are left. -/
def toJson (settings : Settings) : Json := .object
  ((disabledName, kindNames settings.disabled) ::
    (enabledName, .ofTexts (settings.enabled.map StatementKind.name)) ::
    fields.map fun field => (field.name, (field.get settings).toJson))

end SerialCheck.Settings

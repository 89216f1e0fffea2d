import SerialCheck.Exchange.Statement
import SerialCheck.Schema
import SerialCheck.Server

/-!
# Servers and schemas in documents

A server is described by its tables, its rules and the connections that it refuses, a schema by
the columns of its tables. The parts of a rule are kept as they are; what they are worth shows
when a text is sent.
-/
namespace SerialCheck

/-- The column of the catalog that an array describes. -/
def CatalogColumn.ofJson (document : Json) : Exchange CatalogColumn := do
  return ⟨← Value.ofJson (document.item 0), ← Value.ofJson (document.item 1),
    ← Value.ofJson (document.item 2)⟩

/-- The names of kinds of errors. -/
def ErrorKind.names : List (String × ErrorKind) := [
  ("OperationalError", .operational), ("InterfaceError", .interface), ("Warning", .warning),
  ("DatabaseError", .statement), ("Error", .statement), ("DataError", .statement),
  ("IntegrityError", .statement), ("InternalError", .statement),
  ("ProgrammingError", .statement), ("NotSupportedError", .statement)]

/-- The kind of error that a value names. -/
def ErrorKind.ofValue (value : Value) : Except Misuse ErrorKind :=
  match value with
  | .text name => ((names.lookup name).map .ok).getD (.error (.errorKind value))
  | value => .error (.errorKind value)

/-- The answer of a rule that a document describes. -/
def RuleAnswer.ofJson (document : Json) : RuleAnswer :=
  match document.field? "error", document.field? "rows" with
  | some report, _ =>
    .failure (ErrorKind.ofValue (document.valueIn "kind" (.text "DatabaseError")))
      (Value.verbatim report).plain (document.field "disconnect").isFilled
  | none, some contents => .rows (Value.decodeRows? contents)
  | none, none => .engine

/-- The rule that a document describes. -/
def Rule.ofJson (document : Json) : Rule where
  connection := (document.field? "conn").map .verbatim
  exact := (document.field? "sql").map .verbatim
  start := (document.field? "prefix").map .verbatim
  part := (document.field? "contains").map .verbatim
  skip := document.valueIn "skip" (.integer 0)
  times := document.valueIn "times" .null
  delay := document.valueIn "delay" (.integer 0)
  notices := document.valueIn "notices" (.array [])
  answer := .ofJson document

/-- The number whose text is the given one. -/
def numberOf? (text : String) : Option Nat :=
  ((Text.readInteger? text).map Int.toNat).filter fun number => toString number == text

/-- The refused connections that the members of an object name by their numbers. -/
def refusalsOf (members : List (String × Json)) : List (Nat × String) :=
  members.filterMap fun (name, report) => do
    return (← numberOf? name, (Value.verbatim report).plain)

/-- The server that a document describes. -/
def Server.ofJson (document : Json) : Exchange Server := do
  document.allowObject
  let tables ← (← document.namedIn "tables").mapM fun (name, columns) => do
    return (⟨name, ← (← columns.listed).mapM CatalogColumn.ofJson, []⟩ : StoredTable)
  let layouts ← (← document.namedIn "created_columns").mapM fun (name, columns) => do
    return (name, ← (← columns.listed).mapM CatalogColumn.ofJson)
  let rules := (← document.listIn "rules").map Rule.ofJson
  let refusals := refusalsOf (document.field "connect_errors").members
  return { database := { tables, layouts }, rules, refusals }

/-- The type of a column that a value names. -/
def DataType.ofValue (value : Value) : Exchange DataType := do
  if let some cause := value.unfit? then throw (.misuse cause)
  match value with
  | .text name =>
    match ofName? name with
    | some dataType => return dataType
    | none => throw (.unknownName (Text.quoted name))
  | value => throw (.unknownName value.literal)

/-- What stands in place of a name, unless it is a text. -/
def entryOf? : Value → Option Value
  | .text _ => none
  | value => some value

/-- The column that an array describes. -/
def Column.ofJson (document : Json) : Exchange Column := do
  let name := Value.verbatim (← document.needItem 0)
  return {
    name := name.plain
    dataType := ← DataType.ofValue (.verbatim (← document.needItem 1))
    nullable := (document.items.getD 2 (.boolean true)).isFilled
    primaryKey := (document.item 3).isFilled
    entry := entryOf? name }

/-- The schema that an object describes. -/
def Schema.ofJson (document : Json) : Exchange Schema := do
  let tables ← (← document.named).mapM fun (name, columns) => do
    return (⟨name, ← (← columns.listed).mapM Column.ofJson, none⟩ : Table)
  return ⟨tables⟩

/-- The document of a column. -/
def Column.toJson (column : Column) : Json := .array [
  column.key.toJson, .text column.dataType.name, .boolean column.nullable,
  .boolean column.primaryKey]

/-- The document of a schema. -/
def Schema.toJson (schema : Schema) : Json :=
  .object (schema.tables.map fun table => (table.name, .array (table.columns.map Column.toJson)))

/-- The document of what a server logged beyond a number of entries. -/
def Server.logJson (server : Server) (count : Nat) : Json :=
  .array ((server.log.since count).map fun (number, event) =>
    .array [.integer number, event.shown.toJson])

end SerialCheck

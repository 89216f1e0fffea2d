import SerialCheck.Synthesis.Expression

/-!
# Data statements

Statements that read and change the rows of one table: their structure, their text and their
random generation over the tables of a schema.
-/
namespace SerialCheck

/-- A text to be executed, with the errors that are not suspicious. -/
structure Query where
  /-- The SQL text. -/
  text : Value
  /-- The errors that are not suspicious. -/
  expected : ExpectedErrors := .none
  /-- The statement may change which tables there are. -/
  changesSchema : Bool := false

/-- A statement on the rows of a table. -/
inductive DataStatement where
  /-- Adds rows with values for the given columns. -/
  | insert (table : String) (columns : List String) (rows : List (List Constant))
  /-- Reads columns, all of them if none are given, and may lock the rows. -/
  | select (table : String) (columns : Option (List String)) (condition : Option Predicate)
      (locking : Bool)
  /-- Removes rows. -/
  | delete (table : String) (condition : Option Predicate)
  /-- Sets columns. -/
  | update (table : String) (assignments : List (String × Constant))
      (condition : Option Predicate)
  deriving Repr, DecidableEq

namespace DataStatement

/-- The errors that data statements may meet on random data. -/
def expected : ExpectedErrors := .ofList [
  "duplicate key value violates unique constraint",
  "violates not-null constraint",
  "violates check constraint",
  "out of range",
  "invalid input syntax",
  "numeric field overflow",
  "current transaction is aborted"]

/-- The further error of a statement that locks rows. -/
def lockError : String := "could not obtain lock"

/-- The names of columns or values, separated by commas. -/
def commaList (texts : List String) : String := ", ".intercalate texts

/-- The condition of a statement. -/
def renderCondition : Option Predicate → String
  | some predicate => " WHERE " ++ predicate.render
  | none => ""

/-- The values of one added row. -/
def renderRow (row : List Constant) : String :=
  "(" ++ commaList (row.map Constant.render) ++ ")"

/-- The text of a statement. -/
def render : DataStatement → String
  | .insert table columns rows =>
    "INSERT INTO " ++ table ++ "(" ++ commaList columns ++ ") VALUES " ++
      commaList (rows.map renderRow)
  | .select table columns condition locking =>
    "SELECT " ++ columns.elim "*" commaList ++ " FROM " ++ table ++ renderCondition condition ++
      if locking then " FOR UPDATE" else ""
  | .delete table condition => "DELETE FROM " ++ table ++ renderCondition condition
  | .update table assignments condition =>
    "UPDATE " ++ table ++ " SET " ++
      commaList (assignments.map fun (column, constant) => column ++ " = " ++ constant.render) ++
      renderCondition condition

/-- The query of a statement. -/
def query (statement : DataStatement) : Query :=
  match statement with
  | .select _ _ _ true => ⟨.text statement.render, expected.withPatterns [lockError], false⟩
  | _ => ⟨.text statement.render, expected, false⟩

/-- A constant for each column. -/
def drawRow : List Column → Draw (List Constant)
  | [] => pure []
  | column :: columns => do
    let constant ← Constant.draw column.dataType
    return constant :: (← drawRow columns)

/-- As many rows as asked for. -/
def drawRows (columns : List Column) : Nat → Draw (List (List Constant))
  | 0 => pure []
  | count + 1 => do
    let row ← drawRow columns
    return row :: (← drawRows columns count)

/-- A condition as often as not. -/
def drawCondition (columns : List Column) : Attempt (Option Predicate) := do
  if ← Draw.coin then return some (← Predicate.draw columns Predicate.maxDepth) else return none

/-- The names of columns that are listed, which have to be texts. -/
def columnNames (columns : List Column) : Attempt (List String) :=
  match Value.texts (columns.map Column.key) with
  | .ok names => return names
  | .error cause => throw (.misuse cause)

/-- An insertion into a table. -/
def drawInsert (table : Table) : Attempt DataStatement := do
  let columns ← Attempt.subset table.columns
  let count ← (Draw.oneOf 1 [1, 2, 3] : Draw Nat)
  let rows ← drawRows columns count
  return .insert table.name (← columnNames columns) rows

/-- The columns that are read: all of them as often as not. -/
def drawFetch (columns : List Column) : Attempt (Option (List String)) := do
  if ← Draw.coin then return none
  else return some (← columnNames (← Attempt.subset columns))

/-- A statement that reads a table. -/
def drawSelect (locking : Bool) (table : Table) : Attempt DataStatement := do
  let columns ← drawFetch table.columns
  let condition ← drawCondition table.columns
  return .select table.name columns condition locking

/-- A statement that removes rows of a table. -/
def drawDelete (table : Table) : Attempt DataStatement := do
  return .delete table.name (← drawCondition table.columns)

/-- A constant for each column, with the column's name. -/
def drawAssignments : List Column → Draw (List (String × Constant))
  | [] => pure []
  | column :: columns => do
    let constant ← Constant.draw column.dataType
    return (column.name, constant) :: (← drawAssignments columns)

/-- A statement that sets columns of a table. -/
def drawUpdate (table : Table) : Attempt DataStatement := do
  let columns ← Attempt.subset table.columns
  let assignments ← drawAssignments columns
  return .update table.name assignments (← drawCondition table.columns)

end DataStatement

/-- The words that open a transaction. -/
def openingWords : String × String := ("BEGIN", "START TRANSACTION")

/-- The opening statement of a transaction at an isolation level, if one is named. -/
def drawOpening (isolationLevel : Value) : Attempt Query := do
  let words ← (Draw.oneOf openingWords.1 [openingWords.2] : Draw String)
  if !isolationLevel.isFilled then return ⟨.text words, .none, false⟩
  else
    match isolationLevel.capitals with
    | .ok level => return ⟨.text (words ++ " ISOLATION LEVEL " ++ level.plain), .none, false⟩
    | .error cause => throw (.misuse cause)

/-- A statement of a kind over the tables of a schema. -/
def drawStatement (schema : Schema) (isolationLevel : Value) :
    StatementKind → Attempt Query
  | .begin => drawOpening isolationLevel
  | .commit => pure ⟨.text "COMMIT", .none, false⟩
  | .rollback => pure ⟨.text "ROLLBACK", .none, false⟩
  | .insert => do return (← DataStatement.drawInsert (← schema.randomTable)).query
  | .select => do return (← DataStatement.drawSelect false (← schema.randomTable)).query
  | .selectForUpdate => do return (← DataStatement.drawSelect true (← schema.randomTable)).query
  | .delete => do return (← DataStatement.drawDelete (← schema.randomTable)).query
  | .update => do return (← DataStatement.drawUpdate (← schema.randomTable)).query

end SerialCheck

import SerialCheck.Rows

/-!
# The snapshot engine

An engine with snapshot isolation over tables that only grow: each changing statement adds a
row that holds its own text. A transaction reads the rows that were committed when it sent its
first data statement, followed by its own; its own rows become visible to others when it
commits. A text is first read as a `Command`, and the command then acts on the tables.
-/
namespace SerialCheck

/-- The query by which the catalog is read. -/
def schemaQuery : String := "
        SELECT c.table_name, c.column_name, c.data_type, c.is_nullable
        FROM information_schema.columns c
        JOIN information_schema.tables t
          ON t.table_schema = c.table_schema AND t.table_name = c.table_name
        WHERE c.table_schema = CURRENT_SCHEMA AND t.table_type = 'BASE TABLE'
        ORDER BY c.table_name, c.ordinal_position
    "

/-- What the engine does on receiving a text. -/
inductive Command where
  /-- Lists the columns of all tables. -/
  | catalog
  /-- Creates a table. -/
  | create (table : String)
  /-- Forgets a table. -/
  | drop (table : String)
  /-- Opens a transaction. -/
  | begin
  /-- Ends a transaction and keeps its rows. -/
  | commit
  /-- Ends a transaction and drops its rows. -/
  | rollback
  /-- Adds a row to a table. -/
  | write (table : String)
  /-- Reads a table. -/
  | read (table : String)
  /-- Does nothing. -/
  | other
  deriving Repr, DecidableEq

namespace Command

/-- The name at the front of a text, up to a space or an opening parenthesis. -/
def nameAt (chars : List Char) : String :=
  String.ofList (chars.takeWhile fun char => char != ' ' && char != '(')

/-- The name that follows a keyword at the front of a text. -/
def nameAfter? (keyword text : String) : Option String :=
  if Text.startsWith text keyword then some (nameAt (text.toList.drop keyword.toList.length))
  else none

/-- The keywords of the statements that add rows. -/
def writeKeywords : List String := ["INSERT INTO ", "UPDATE ", "DELETE FROM "]

/-- The command that the text of a reading statement stands for. -/
def ofReading (text : String) : Command :=
  if Text.startsWith text "SELECT " then
    match Text.afterSegment? " FROM ".toList text.toList with
    | some rest => .read (nameAt rest)
    | none => .other
  else .other

/-- The command that a text stands for. -/
def ofText (text : String) : Command :=
  if text == schemaQuery then .catalog
  else
    match nameAfter? "CREATE TABLE " text, nameAfter? "DROP TABLE IF EXISTS " text,
        writeKeywords.findSome? (nameAfter? · text) with
    | some table, _, _ => .create table
    | none, some table, _ => .drop table
    | none, none, some table => .write table
    | none, none, none =>
      if Text.startsWith text "BEGIN" || Text.startsWith text "START TRANSACTION" then .begin
      else if text == "COMMIT" then .commit
      else if text == "ROLLBACK" then .rollback
      else ofReading text

end Command

/-- A column as the catalog lists it. -/
structure CatalogColumn where
  /-- The name. -/
  name : Value
  /-- The database's name of the type. -/
  dataType : Value
  /-- Whether it may be null, in the catalog's words. -/
  nullable : Value
  deriving Repr

/-- A table of the engine with its committed rows. -/
structure StoredTable where
  /-- The name. -/
  name : String
  /-- The columns. -/
  columns : List CatalogColumn
  /-- The committed rows. -/
  rows : Rows := []

/-- The tables of the engine. -/
structure Database where
  /-- The tables; their names are different. -/
  tables : List StoredTable := []
  /-- The rows that were committed to tables which had been forgotten, each with its table. They
  are lost when a table of that name is created or forgotten. -/
  strayRows : List (String × Value) := []
  /-- The columns that a table of a given name gets when it is created. -/
  layouts : List (String × List CatalogColumn) := []

/-- The committed rows of all tables at one moment. -/
abbrev Snapshot := List (String × Rows)

/-- The open transaction of a connection. -/
structure Work where
  /-- The snapshot, once it has been taken. -/
  snapshot : Option Snapshot := none
  /-- The rows added so far, each with its table. -/
  pending : List (String × Value) := []

/-- An error report or the rows of a result set, none if there is no result set. -/
abbrev Answer := Except String (Option Rows)

namespace Database

/-- The table with a name. -/
def table? (database : Database) (name : String) : Option StoredTable :=
  database.tables.find? (·.name == name)

/-- The columns of a created table for which none are given. -/
def defaultLayout : List CatalogColumn := [⟨.text "c0", .text "integer", .text "YES"⟩]

/-- The database with one more table, which is empty. -/
def create (database : Database) (name : String) : Database :=
  let columns := (database.layouts.lookup name).getD defaultLayout
  { database with
    tables := database.tables ++ [⟨name, columns, []⟩]
    strayRows := database.strayRows.filter (·.1 != name) }

/-- The database without a table. -/
def drop (database : Database) (name : String) : Database :=
  { database with
    tables := database.tables.filter (·.name != name)
    strayRows := database.strayRows.filter (·.1 != name) }

/-- The database with a row added to a table; a row for an unknown table goes astray. -/
def add (database : Database) (name : String) (row : Value) : Database :=
  if (database.table? name).isNone then
    { database with strayRows := database.strayRows ++ [(name, row)] }
  else
    { database with
      tables := database.tables.map fun table =>
        if table.name = name then { table with rows := table.rows ++ [row] } else table }

/-- The committed rows of all tables, those that went astray included. -/
def snapshot (database : Database) : Snapshot :=
  (database.tables.map fun table => (table.name, table.rows)) ++
    database.strayRows.map fun (name, _) =>
      (name, (database.strayRows.filter (·.1 == name)).map Prod.snd)

/-- The rows of the catalog: the columns of the tables in ascending order of the tables. -/
def catalog (database : Database) : Rows :=
  (sort (fun left right => textBelow left.name right.name) database.tables).flatMap fun table =>
    table.columns.map fun column =>
      .row [.text table.name, column.name, column.dataType, column.nullable]

/-- The report about a table that does not exist. -/
def missingReport (name : String) : String := "relation \"" ++ name ++ "\" does not exist"

/-- The report about a table that exists. -/
def presentReport (name : String) : String := "relation \"" ++ name ++ "\" already exists"

end Database

namespace Work

/-- The transaction with its snapshot taken, unless it has one. -/
def withSnapshot (work : Work) (database : Database) : Work :=
  { work with snapshot := some (work.snapshot.getD database.snapshot) }

/-- The rows of a table that the transaction sees: those of its snapshot and its own. -/
def visible (work : Work) (name : String) : Rows :=
  ((work.snapshot.getD []).lookup name).getD [] ++
    (work.pending.filter (·.1 == name)).map Prod.snd

/-- The database with the rows of a transaction added. -/
def commitTo (work : Work) (database : Database) : Database :=
  work.pending.foldl (fun database (name, row) => database.add name row) database

end Work

/-- The tables of the engine and the open transaction of the connection that uses it. -/
structure Engine where
  /-- The tables. -/
  database : Database
  /-- The open transaction, if there is one. -/
  work : Option Work := none

namespace Engine

/-- The row that a statement with the given text adds to a known table: to its transaction if
one is open, and else to the committed rows. -/
def write (engine : Engine) (name text : String) : Answer × Engine :=
  if (engine.database.table? name).isNone then (.error (Database.missingReport name), engine)
  else
    let row : Value := .row [.text text]
    match engine.work with
    | none => (.ok none, { engine with database := engine.database.add name row })
    | some work =>
      let work := work.withSnapshot engine.database
      (.ok none,
        { engine with work := some { work with pending := work.pending ++ [(name, row)] } })

/-- The rows of a known table: those that its transaction sees if one is open, and else the
committed ones. -/
def read (engine : Engine) (name : String) : Answer × Engine :=
  match engine.database.table? name with
  | none => (.error (Database.missingReport name), engine)
  | some table =>
    match engine.work with
    | none => (.ok (some table.rows), engine)
    | some work =>
      let work := work.withSnapshot engine.database
      (.ok (some (work.visible name)), { engine with work := some work })

/-- The answer to a command with its text. -/
def perform (engine : Engine) (text : String) : Command → Answer × Engine
  | .catalog => (.ok (some engine.database.catalog), engine)
  | .create name =>
    if (engine.database.table? name).isSome then (.error (Database.presentReport name), engine)
    else (.ok none, { engine with database := engine.database.create name })
  | .drop name => (.ok none, { engine with database := engine.database.drop name })
  | .begin => (.ok none, { engine with work := some {} })
  | .commit =>
    (.ok none, ⟨(engine.work.getD {}).commitTo engine.database, none⟩)
  | .rollback => (.ok none, { engine with work := none })
  | .write name => engine.write name text
  | .read name => engine.read name
  | .other => (.ok none, engine)

/-- The answer to a text. -/
def execute (engine : Engine) (text : String) : Answer × Engine :=
  engine.perform text (Command.ofText text)

end Engine

end SerialCheck

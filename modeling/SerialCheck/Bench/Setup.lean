import SerialCheck.Bench
import SerialCheck.Script

/-!
# Setting up the database

The setup log holds every setup statement that succeeded, in order. Replaying it restores the
database to the same starting point before each run.
-/
namespace SerialCheck.Bench

/-- The number of members of a row of the catalog. -/
def catalogWidth : Nat := 4

/-- The type of a column whose type the catalog names so. A byte string names none that is
known. -/
def catalogType : Value → Except Misuse DataType
  | .text name => .ok (.ofCatalog name)
  | .bytes _ => .ok .text
  | value => .error (.operation value.kindName "lower")

/-- The column of the catalog with the given entries. -/
def columnOf (name dataType nullable : Value) : Except Misuse Column := do
  let dataType ← catalogType dataType
  let nullable := nullable.same (.text "YES")
  match name with
  | .text name => return { name, dataType, nullable }
  | entry => return { name := entry.plain, dataType, nullable, entry := some entry }

/-- The schema with the column that a row of the catalog describes. -/
def addRow (schema : Schema) (row : Value) : Except Misuse Schema := do
  match ← row.members with
  | [table, name, dataType, nullable] =>
    if let some cause := table.unfit? then throw cause
    return schema.addColumn table (← columnOf name dataType nullable)
  | members => throw (.members catalogWidth members.length)

/-- The schema that the rows of the catalog describe. -/
def schemaOf (rows : Rows) : Except Misuse Schema := rows.foldlM addRow {}

/-- The known tables are read from the catalog. -/
def updateSchema : Task Unit := do
  let outcome ← execute (← adminSession) (.text schemaQuery)
  if let some report := outcome.error then throw (.session (.schemaUnreadable report))
  let schema ← Task.use (schemaOf (outcome.rows.getD []))
  modify fun bench => { bench with schema }
  if let some cause := schema.disorder? then throw (.misuse cause)
  Task.log .debug
    (s!"Schema has {schema.tables.length} tables: " ++ (Value.array schema.keys).literal)

/-- A setup statement is run and, if it succeeds, joins the setup log. An expected error is
tolerated. -/
def runSetup (query : Query) : Task Bool := do
  let outcome ← execute (← adminSession) query.text
  match outcome.error with
  | none =>
    modify fun bench => { bench with setupLog := bench.setupLog ++ [query] }
    if query.changesSchema then updateSchema
    return true
  | some report =>
    if query.expected.matches? report then
      Task.log .debug ("Expected error during setup: " ++ report)
      return false
    else throw (.session (.setupFailed report query.text.plain))

/-- The statement that drops a table. -/
def dropText (table : String) : String := "DROP TABLE IF EXISTS " ++ table ++ " CASCADE"

/-- Tables are dropped one after the other. -/
def dropEach : List String → Task Unit
  | [] => return ()
  | table :: tables => do
    let outcome ← execute (← adminSession) (.text (dropText table))
    match outcome.error with
    | some report => throw (.session (.dropFailed table report))
    | none => dropEach tables

/-- All tables of the database are dropped. -/
def dropTables : Task Unit := do
  updateSchema
  dropEach (← get).schema.names
  modify fun bench => { bench with schema := {} }

/-- Setup statements are replayed one after the other. -/
def replayEach : List Query → Task Unit
  | [] => return ()
  | query :: queries => do
    let outcome ← execute (← adminSession) query.text
    match outcome.error with
    | some report => throw (.session (.replayFailed report query.text.plain))
    | none => replayEach queries

/-- The database is restored to what the setup log makes it. -/
def reproduce : Task Unit := do
  dropTables
  replayEach (← get).setupLog
  updateSchema

/-- The setup log is emptied. -/
def clearSetupLog : Task Unit := modify fun bench => { bench with setupLog := [] }

/-- A definition of a table over the known ones. -/
def drawTable : Task Query := do
  let schema := (← get).schema
  let (query, _) ← Task.attempt (TableGenerator.draw {} schema)
  return query

/-- The number of known tables. -/
def tableCount : Task Value := return .integer (← get).schema.tables.length

/-- Tables are created until there are as many as wanted, in at most the given number of
attempts. -/
def createTables (wanted : Value) : Nat → Task Unit
  | 0 => do
    if ← Task.use ((← tableCount).isBelow wanted) then throw (.session (.tablesMissing wanted))
  | attempts + 1 => do
    if ← Task.use ((← tableCount).isBelow wanted) then
      discard (runSetup (← drawTable))
      createTables wanted attempts

/-- How many attempts there are for each wanted table. -/
def attemptsPerTable : Nat := 10

/-- How many attempts there are for infinitely many tables. Only a fault ends their creation
earlier. -/
def attemptsWithoutEnd : Nat := 100000

/-- How many attempts there are for as many tables as wanted. -/
def attemptsFor (wanted : Value) : Except Misuse Nat :=
  match wanted.number? with
  | none => .ok 0
  | some (.binary (.infinite false)) | some (.decimal (.infinite false)) => .ok attemptsWithoutEnd
  | some count =>
    ((count.times attemptsPerTable).map Number.floor).mapError (Value.sumMisuse count count)

/-- As many tables as wanted are created. -/
def createAll (wanted : Value) : Task Unit := do
  if ← Task.use ((← tableCount).isBelow wanted) then
    createTables wanted (← Task.use (attemptsFor wanted))

/-- As many insertions into a table as given. -/
def fillTable (table : Table) : Nat → Task Unit
  | 0 => return ()
  | count + 1 => do
    let statement ← Task.attempt (DataStatement.drawInsert table)
    discard (runSetup statement.query)
    fillTable table count

/-- As many insertions into each table as given. -/
def fillTables (wanted : Value) : List Table → Task Unit
  | [] => return ()
  | table :: tables => do
    let count ← Task.use wanted.count
    fillTable table count.toNat
    fillTables wanted tables

/-- The database is replaced by random tables with random rows. -/
def generateDatabase : Task Unit := do
  dropTables
  clearSetupLog
  let settings := (← get).settings
  createAll settings.tableCount
  fillTables settings.insertsPerTable (← get).schema.sorted
  let bench ← get
  let tables := bench.schema.tables.length
  let statements := bench.setupLog.length
  Task.log .info s!"Generated database with {tables} tables and {statements} init queries"

/-- The statements of a script are run one after the other. -/
def runScript : List String → Task Unit
  | [] => return ()
  | text :: texts => do
    discard (runSetup ⟨.text text, .none, true⟩)
    runScript texts

/-- The text of a file. -/
def readFile (path : String) : Task String := do
  match (← get).disk.read path with
  | .ok text => return text
  | .error cause => throw (.file cause)

/-- The database is replaced by what a script makes of an empty one. -/
def loadScript (path : String) : Task Unit := do
  let script ← readFile path
  dropTables
  clearSetupLog
  runScript (Script.statements script)
  updateSchema

/-- The statement that reads a whole table. -/
def readText (table : String) : String := "SELECT * FROM " ++ table

/-- The contents of tables. -/
def contentsOf : List String → Task Contents
  | [] => return []
  | table :: tables => do
    let outcome ← execute (← adminSession) (.text (readText table))
    match outcome.error with
    | some report => throw (.session (.snapshotFailed table report))
    | none => return (table, some (outcome.rows.getD [])) :: (← contentsOf tables)

/-- The contents of all known tables. -/
def snapshot : Task Contents := do contentsOf (← get).schema.names

end SerialCheck.Bench

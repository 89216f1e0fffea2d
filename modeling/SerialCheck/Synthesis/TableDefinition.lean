import SerialCheck.Synthesis.DataStatement

/-!
# Table definitions

Statements that create a table, either like a known one or from columns with constraints: their
structure, their text and their random generation.
-/
namespace SerialCheck

/-- A column of a new table with its constraints. -/
structure ColumnClause where
  /-- The column. -/
  column : Column
  /-- What its values have to satisfy. -/
  check : Option Predicate
  /-- Its values are not null. -/
  notNull : Bool
  /-- The value it has if none is given. -/
  default : Option Constant
  /-- Its values are different. -/
  unique : Bool
  /-- It is the primary key. -/
  primaryKey : Bool
  deriving Repr

/-- A statement that creates a table. -/
inductive TableDefinition where
  /-- A table like another one. -/
  | copy (name model : String)
  /-- A table with columns, and a primary key of several of them. -/
  | fresh (name : String) (clauses : List ColumnClause) (key : Option (List String))
  deriving Repr

/-- The text of a column with its constraints. -/
def ColumnClause.render (clause : ColumnClause) : String :=
  clause.column.name ++ " " ++ clause.column.dataType.name ++
    clause.check.elim "" (" CHECK " ++ ·.render) ++
    (if clause.notNull then " NOT NULL" else "") ++
    clause.default.elim "" (" DEFAULT " ++ ·.render) ++
    (if clause.unique then " UNIQUE" else "") ++
    if clause.primaryKey then " PRIMARY KEY" else ""

namespace TableDefinition

/-- The text of a primary key of several columns. -/
def renderKey (key : List String) : String :=
  "PRIMARY KEY(" ++ DataStatement.commaList key ++ ")"

/-- The text of a definition. -/
def render : TableDefinition → String
  | .copy name model => "CREATE TABLE " ++ name ++ "(LIKE " ++ model ++ " INCLUDING ALL)"
  | .fresh name clauses key =>
    "CREATE TABLE " ++ name ++ "(" ++
      DataStatement.commaList (clauses.map ColumnClause.render ++ (key.map renderKey).toList) ++
      ")"

/-- The error that any definition may meet. -/
def expected : ExpectedErrors := .ofList ["cached plan must not change result type"]

/-- The errors that a default value may cause. -/
def defaultErrors : List String := ["invalid input syntax", "out of range"]

/-- Some column has a default value. -/
def hasDefault (clauses : List ColumnClause) : Bool := clauses.any (·.default.isSome)

/-- The name of a generated column. -/
def columnName (number : Nat) : String := s!"c{number}"

/-- Columns of random types, numbered from the given number on. -/
def drawColumns : Nat → Nat → Attempt (List Column)
  | 0, _ => pure []
  | count + 1, number => do
    let dataType ← Attempt.member DataType.all
    return { name := columnName number, dataType } :: (← drawColumns count (number + 1))

/-- A predicate about the one column; seldom present. -/
def drawCheck (column : Column) : Attempt (Option Predicate) := do
  if ← Draw.seldom then return some (← Predicate.draw [column] Predicate.maxDepth)
  else return none

/-- A constant of the type as often as not. -/
def drawDefault (dataType : DataType) : Draw (Option Constant) := do
  if ← Draw.coin then return some (← Constant.draw dataType) else return none

/-- A constraint that is seldom present, and only where it is allowed. -/
def drawAllowed : Bool → Draw Bool
  | true => Draw.seldom
  | false => pure false

/-- A column with random constraints. -/
def drawClause (keyAllowed : Bool) (column : Column) : Attempt ColumnClause := do
  let check ← drawCheck column
  let notNull ← Draw.seldom
  let default ← drawDefault column.dataType
  let unique ← Draw.seldom
  let primaryKey ← drawAllowed keyAllowed
  return ⟨column, check, notNull, default, unique, primaryKey⟩

/-- Columns with random constraints, at most one of them the primary key. -/
def drawClauses : Bool → List Column → Attempt (List ColumnClause)
  | _, [] => pure []
  | keyAllowed, column :: columns => do
    let clause ← drawClause keyAllowed column
    return clause :: (← drawClauses (keyAllowed && !clause.primaryKey) columns)

/-- True as often as not, but only where it is allowed. -/
def drawChoice : Bool → Draw Bool
  | true => Draw.coin
  | false => pure false

/-- Some of the columns as the primary key, if there is to be one. -/
def drawKey (columns : List Column) : Bool → Attempt (Option (List String))
  | true => return some ((← Attempt.subset columns).map Column.name)
  | false => pure none

end TableDefinition

/-- A generator of table definitions, which keeps the columns of the last one and collects the
errors of all of them. -/
structure TableGenerator where
  /-- The columns of the last definition. -/
  columns : List Column := []
  /-- The errors that definitions so far may meet. -/
  expected : ExpectedErrors := TableDefinition.expected

namespace TableGenerator

/-- The query of a definition, and the generator after it. -/
def finish (generator : TableGenerator) (columns : List Column)
    (definition : TableDefinition) (further : List String) : Query × TableGenerator :=
  let expected := generator.expected.withPatterns further
  (⟨.text definition.render, expected, true⟩, ⟨columns, expected⟩)

/-- A copy of a table. -/
def drawCopy (generator : TableGenerator) (schema : Schema) (name : String) :
    Attempt (Query × TableGenerator) := do
  let model ← schema.randomTable
  return generator.finish model.columns (.copy name model.name) []

/-- A table with columns of its own. -/
def drawNew (generator : TableGenerator) (name : String) : Attempt (Query × TableGenerator) := do
  let count ← (Draw.oneOf 1 [2, 3] : Draw Nat)
  let keyAllowed ← Draw.coin
  let keyApart ← TableDefinition.drawChoice keyAllowed
  let columns ← TableDefinition.drawColumns count 0
  let clauses ← TableDefinition.drawClauses (keyAllowed && !keyApart) columns
  let key ← TableDefinition.drawKey columns keyApart
  return generator.finish columns (.fresh name clauses key)
    (if TableDefinition.hasDefault clauses then TableDefinition.defaultErrors else [])

/-- A definition of a table with a free name. -/
def draw (generator : TableGenerator) (schema : Schema) :
    Attempt (Query × TableGenerator) := do
  let copies ← TableDefinition.drawChoice (!schema.tables.isEmpty)
  if copies then generator.drawCopy schema schema.freeName else generator.drawNew schema.freeName

end TableGenerator

end SerialCheck

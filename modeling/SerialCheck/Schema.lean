import SerialCheck.Random.Draw
import SerialCheck.Value.Use

/-!
# Schemas

The tables that the generators know. A new table gets the least free name (`freeName`).
-/
namespace SerialCheck

/-- The types of columns for which constants can be generated. -/
inductive DataType where
  /-- Whole numbers. -/
  | int
  /-- Texts. -/
  | text
  /-- Truth values. -/
  | boolean
  /-- Decimal numbers. -/
  | numeric
  deriving Repr, DecidableEq

namespace DataType

/-- Every type, in the order in which they are drawn. -/
def all : List DataType := [.int, .text, .boolean, .numeric]

/-- The name of a type. -/
def name : DataType → String
  | .int => "INT"
  | .text => "TEXT"
  | .boolean => "BOOLEAN"
  | .numeric => "NUMERIC"

/-- The type with a name. -/
def ofName? (name : String) : Option DataType := all.find? (·.name == name)

/-- The type of a column whose type the database names so; an unknown one is read as text. -/
def ofCatalog (name : String) : DataType :=
  let name := Text.lower name
  if ["integer", "bigint", "smallint", "int"].contains name then .int
  else if ["boolean", "bool"].contains name then .boolean
  else if ["numeric", "decimal", "real", "double precision"].contains name then .numeric
  else .text

end DataType

/-- A column of a table. -/
structure Column where
  /-- The name. -/
  name : String
  /-- The type. -/
  dataType : DataType
  /-- The column may be null. -/
  nullable : Bool := true
  /-- The column is the primary key. -/
  primaryKey : Bool := false
  /-- What the catalog holds in place of a name that is no text. -/
  entry : Option Value := none
  deriving Repr

/-- The name of a column as a value. -/
def Column.key (column : Column) : Value := column.entry.getD (.text column.name)

/-- A table. -/
structure Table where
  /-- The name. -/
  name : String
  /-- The columns in order. -/
  columns : List Column
  /-- What the catalog holds in place of a name that is no text. -/
  entry : Option Value := none
  deriving Repr

namespace Table

/-- The name of a table as a value. -/
def key (table : Table) : Value := table.entry.getD (.text table.name)

/-- The name of the first table is below that of the second one. -/
def isBelow (left right : Table) : Bool :=
  match left.entry, right.entry with
  | none, none => textBelow left.name right.name
  | _, _ => (left.key.isBelow right.key).toOption.getD false

end Table

/-- The known tables; their names are different. -/
structure Schema where
  /-- The tables in the order in which they became known. -/
  tables : List Table := []
  deriving Repr

namespace Schema

/-- The tables in ascending order of their names. -/
def sorted (schema : Schema) : List Table := sort Table.isBelow schema.tables

/-- The names of the tables in ascending order. -/
def names (schema : Schema) : List String := schema.sorted.map Table.name

/-- The names of the tables as values in ascending order. -/
def keys (schema : Schema) : List Value := schema.sorted.map Table.key

/-- The names of the tables are of kinds that have no common order. -/
def disorder? (schema : Schema) : Option Misuse :=
  match sortChecked Value.isBelow (schema.tables.map Table.key) with
  | .ok _ => none
  | .error cause => some cause

/-- The table with a name. -/
def table? (schema : Schema) (name : String) : Option Table :=
  schema.tables.find? fun table => table.entry.isNone && table.name == name

/-- A table has the name. -/
def has (schema : Schema) (name : String) : Bool :=
  schema.tables.any fun table => table.entry.isNone && table.name == name

/-- The name of the generated table with a number. -/
def tableName (number : Nat) : String := s!"t{number}"

/-- The first number from the given one on whose name is free, looked for in as many steps as
given. -/
def freeNumber (schema : Schema) : Nat → Nat → Nat
  | 0, number => number
  | steps + 1, number =>
    if schema.has (tableName number) then freeNumber schema steps (number + 1) else number

/-- The name with the least number that no table has. -/
def freeName (schema : Schema) : String :=
  tableName (schema.freeNumber (schema.tables.length + 1) 0)

/-- The schema with a column added to the table whose name is the key, which is added if need
be. -/
def addColumn (schema : Schema) (key : Value) (column : Column) : Schema :=
  if schema.tables.any fun table => table.key.same key then
    ⟨schema.tables.map fun table =>
      if table.key.same key then { table with columns := table.columns ++ [column] } else table⟩
  else
    match key with
    | .text name => ⟨schema.tables ++ [⟨name, [column], none⟩]⟩
    | key => ⟨schema.tables ++ [⟨key.plain, [column], some key⟩]⟩

/-- The schema with a table put in place of the one with its name, or added. -/
def put (schema : Schema) (table : Table) : Schema :=
  if schema.has table.name then
    ⟨schema.tables.map fun other => if other.name = table.name then table else other⟩
  else ⟨schema.tables ++ [table]⟩

/-- One of the tables. -/
def randomTable (schema : Schema) : Attempt Table :=
  if schema.tables.isEmpty then throw .noTable
  else
    match schema.disorder? with
    | some cause => throw (.misuse cause)
    | none => Attempt.member schema.sorted

end Schema

end SerialCheck

import SerialCheck.ExpectedErrors
import SerialCheck.Value.Alike

/-!
# Statements

A statement belongs to a transaction, has a place in it, and carries the errors that are not
suspicious when it runs. A generated statement has numbers for the transaction and the place and a
text to be sent; one that is read from a document may have any values for them.
-/
namespace SerialCheck

/-- The kinds of statements. -/
inductive StatementKind where
  /-- Opens a transaction. -/
  | begin
  /-- Ends a transaction and keeps its effects. -/
  | commit
  /-- Ends a transaction and drops its effects. -/
  | rollback
  /-- Adds rows. -/
  | insert
  /-- Changes rows. -/
  | update
  /-- Removes rows. -/
  | delete
  /-- Reads rows. -/
  | select
  /-- Reads rows and locks them. -/
  | selectForUpdate
  deriving Repr, DecidableEq

namespace StatementKind

/-- Every kind. -/
def all : List StatementKind :=
  [.begin, .commit, .rollback, .insert, .update, .delete, .select, .selectForUpdate]

/-- The kinds of data statements, in the order in which they are drawn. -/
def data : List StatementKind := [.insert, .select, .selectForUpdate, .delete, .update]

/-- The name of a kind. -/
def name : StatementKind → String
  | .begin => "BEGIN"
  | .commit => "COMMIT"
  | .rollback => "ROLLBACK"
  | .insert => "INSERT"
  | .update => "UPDATE"
  | .delete => "DELETE"
  | .select => "SELECT"
  | .selectForUpdate => "SELECT_FOR_UPDATE"

/-- The kind with a name. -/
def ofName? (name : String) : Option StatementKind := all.find? (·.name == name)

/-- The kind opens or ends a transaction. -/
def isControl : StatementKind → Bool
  | .begin | .commit | .rollback => true
  | _ => false

/-- The kind ends a transaction. -/
def isTerminal : StatementKind → Bool
  | .commit | .rollback => true
  | _ => false

/-- Statements of the kind return rows. -/
def returnsRows : StatementKind → Bool
  | .select | .selectForUpdate => true
  | _ => false

/-- A kind has exactly one name. -/
theorem ofName?_name (kind : StatementKind) : ofName? kind.name = some kind := by
  cases kind <;> decide

end StatementKind

/-- A statement of a transaction. -/
structure Statement where
  /-- What the transaction is known by. -/
  transaction : Value
  /-- The place inside the transaction. -/
  index : Value
  /-- The kind. -/
  kind : StatementKind
  /-- The SQL text. -/
  text : Value
  /-- The errors that are not suspicious. -/
  expected : ExpectedErrors := .none
  /-- What is listed among these errors although it is no text. -/
  strays : List Value := []
  deriving DecidableEq

namespace Statement

/-- The text by which a statement is shown. -/
def display (statement : Statement) : String :=
  "Transaction: " ++ statement.transaction.plain ++ ", Statement " ++ statement.index.plain ++
    ": " ++ statement.text.plain ++ "; "

/-- The statements agree in all their parts. -/
def alike (left right : Statement) : Bool :=
  left.transaction.alike right.transaction && left.index.alike right.index &&
    left.kind == right.kind && left.text.alike right.text &&
    left.expected == right.expected && Value.allAlike left.strays right.strays

/-- A statement agrees with itself. -/
theorem alike_refl (statement : Statement) : statement.alike statement = true := by
  simp [alike, Value.alike_refl, Value.allAlike_refl]

/-- The misuse of looking for a value that is no text in an error. -/
def strayMisuse : Value → Misuse
  | .bytes value => .pattern (Value.bytes value).kindName
  | value => .operation value.kindName "lower"

/-- The error is not suspicious. It is a misuse to look for a stray in an error. -/
def expects (statement : Statement) (error : String) : Except Misuse Bool :=
  match statement.strays with
  | [] => .ok (statement.expected.matches? error)
  | stray :: _ => if error.isEmpty then .ok false else .error (strayMisuse stray)

/-- The engine takes the transaction's snapshot when it receives this statement: the first one
after the opening, unless that ends the transaction. -/
def takesSnapshot (statement : Statement) : Bool :=
  statement.index.alike (.integer 1) && !statement.kind.isTerminal

end Statement

end SerialCheck

import SerialCheck.Json
import SerialCheck.Settings
import SerialCheck.Transaction
import SerialCheck.Value.Use

/-!
# Faults in documents

Values, statements, traces and settings are exchanged as JSON documents. A document that is not
of the form it should have is refused with the cause; of several causes the one counts that is
met first when the members are read in their order.
-/
namespace SerialCheck

/-- Why a document is refused. Names and values are given by their literals. -/
inductive ExchangeFault where
  /-- An object has no member of the name. -/
  | missing (literal : String)
  /-- A value stands in place of an object. -/
  | unstructured (value : Value)
  /-- There is no such kind of statement. -/
  | statementKind (literal : String)
  /-- There is no such reason. -/
  | reason (literal : String)
  /-- There is no such name in a list of names. -/
  | unknownName (literal : String)
  /-- There is no such setting. -/
  | setting (name : String)
  /-- A setting cannot be read. -/
  | settings (cause : SettingsError)
  /-- A list has no member at the place. -/
  | place
  /-- A part of a finding is given twice. -/
  | repeated (name : String)
  /-- The statements are no transaction. -/
  | transaction (cause : Transaction.StructureError)
  /-- A call of an operation lacks arguments that the operation needs. -/
  | missingArguments (operation : String) (names : List String)
  /-- A call of an operation has more arguments than the operation takes. -/
  | surplusArguments (operation : String) (least most given : Nat)
  /-- There is no level of records of the name. -/
  | level (literal : String)
  /-- A value is no level of records. -/
  | levelKind (literal : String)
  /-- A variable has a value of another kind in place of a text. -/
  | variableKind (kind : String)
  /-- A variable holds the character zero, or its name does. -/
  | variableZero
  /-- The name of a variable has an equals sign in it. -/
  | variableName
  /-- The name of a variable is empty. -/
  | variableNameless
  /-- A value is of a kind that does not fit, or a text denotes none. -/
  | misuse (cause : Misuse)

/-- What is read from a document. -/
abbrev Exchange (α : Type) := Except ExchangeFault α

namespace Exchange

/-- The result of the use of a value in a document. -/
def use {α : Type} : Except Misuse α → Exchange α
  | .ok result => .ok result
  | .error cause => .error (.misuse cause)

end Exchange

namespace Json

/-- The member of an object with a name, if it has one. -/
def field? (document : Json) (name : String) : Option Json := document.members.lookup name

end Json

end SerialCheck

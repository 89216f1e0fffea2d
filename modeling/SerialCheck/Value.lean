import SerialCheck.Number
import SerialCheck.Number.Decimal
import SerialCheck.Text.Quoted

/-!
# Values

The values that a database returns or a setting holds: scalars and, nested to any depth, rows,
arrays and named values. A value
has two texts: its plain text, and its literal, in which texts are quoted.
-/
namespace SerialCheck

/-- A value in a result set. -/
inductive Value where
  /-- The null value. -/
  | null
  /-- A truth value. -/
  | boolean (value : Bool)
  /-- A whole number. -/
  | integer (value : Int)
  /-- A binary floating-point number. -/
  | real (value : Binary64)
  /-- A decimal number. -/
  | decimal (value : Decimal)
  /-- A text. -/
  | text (value : String)
  /-- A byte string. -/
  | bytes (value : List UInt8)
  /-- A byte string that is a view of a buffer. -/
  | buffer (value : List UInt8)
  /-- A row. -/
  | row (members : List Value)
  /-- An array. -/
  | array (members : List Value)
  /-- Named values, in order. -/
  | mapping (entries : List (String × Value))
  deriving Repr, Inhabited

namespace Value

/-- The text of a truth value. -/
def booleanText (value : Bool) : String := if value then "True" else "False"

mutual

/-- The text of a value inside a list, which shows its kind. -/
def literal : Value → String
  | .null => "None"
  | .boolean value => booleanText value
  | .integer value => toString value
  | .real value => value.text
  | .decimal value => "Decimal('" ++ value.text ++ "')"
  | .text value => Text.quoted value
  | .bytes value => Text.quotedBytes value
  | .buffer _ => "<memory>"
  | .row [member] => "(" ++ member.literal ++ ",)"
  | .row members => "(" ++ ", ".intercalate (literals members) ++ ")"
  | .array members => "[" ++ ", ".intercalate (literals members) ++ "]"
  | .mapping entries => "\x7b" ++ ", ".intercalate (entryLiterals entries) ++ "\x7d"

/-- The texts of the members of a list. -/
def literals : List Value → List String
  | [] => []
  | member :: members => member.literal :: literals members

/-- The texts of named values. -/
def entryLiterals : List (String × Value) → List String
  | [] => []
  | (name, value) :: entries =>
    (Text.quoted name ++ ": " ++ value.literal) :: entryLiterals entries

end

/-- An optional text as a value. -/
def ofText? (text : Option String) : Value := text.elim .null .text

/-- The plain text of a value: a text stands for itself and a decimal number for its digits. -/
def plain : Value → String
  | .text value => value
  | .decimal value => value.text
  | value => value.literal

end Value

end SerialCheck

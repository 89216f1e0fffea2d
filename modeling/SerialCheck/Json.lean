/-!
# JSON documents

A document keeps the order of the members of its objects and the text of its numbers, so that
`1` and `1.0` stay different.
-/
namespace SerialCheck

/-- A JSON document. -/
inductive Json where
  /-- The null value. -/
  | null
  /-- A truth value. -/
  | boolean (value : Bool)
  /-- A number, by its text. -/
  | number (text : String)
  /-- A text. -/
  | text (value : String)
  /-- An array. -/
  | array (items : List Json)
  /-- An object with its members in order. -/
  | object (members : List (String × Json))
  deriving Inhabited

namespace Json

/-- A whole number. -/
def integer (value : Int) : Json := .number (toString value)

/-- A text, or null. -/
def ofText? (text : Option String) : Json := text.elim .null .text

/-- An array of texts. -/
def ofTexts (texts : List String) : Json := .array (texts.map .text)

/-- An array of whole numbers. -/
def ofIntegers (numbers : List Int) : Json := .array (numbers.map integer)

/-- The items of an array; a document of another kind has none. -/
def items : Json → List Json
  | .array items => items
  | _ => []

/-- The members of an object; a document of another kind has none. -/
def members : Json → List (String × Json)
  | .object members => members
  | _ => []

/-- The member of an object with a name; null if there is none. -/
def field (document : Json) (name : String) : Json := (document.members.lookup name).getD .null

/-- The document is null. -/
def isNull : Json → Bool
  | .null => true
  | _ => false

/-- The text that a document is, if it is one. -/
def text? : Json → Option String
  | .text value => some value
  | _ => none

end Json

end SerialCheck

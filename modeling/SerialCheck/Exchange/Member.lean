import SerialCheck.Exchange.Value

/-!
# Members of documents

The members of objects by their names and those of lists by their places. A member that is needed
and missing is a fault; one that is not needed has a value in its place. A list may also be given
as a text or as an object.
-/
namespace SerialCheck

/-- The member of a list at a place; a negative place counts from the end. -/
def memberAt? {α : Type} (members : List α) (place : Int) : Option α :=
  if 0 ≤ place then members[place.toNat]?
  else if (-place).toNat ≤ members.length then members[members.length - (-place).toNat]?
  else none

namespace Json

/-- The member of an array at a place, null if there is none. -/
def item (document : Json) (place : Nat) : Json := document.items.getD place .null

/-- The member of an array at a place, which it needs. -/
def needItem (document : Json) (place : Nat) : Exchange Json :=
  match document with
  | .array items => ((items[place]?).map .ok).getD (.error .place)
  | document => .error (.misuse (.places (Value.verbatim document).kindName))

/-- The member of an object with a name. -/
def need (document : Json) (name : String) : Exchange Json :=
  match document with
  | .object members => ((members.lookup name).map .ok).getD (.error (.missing (Text.quoted name)))
  | document => .error (.unstructured (.verbatim document))

/-- What a document lists: the items of an array, the characters of a text, the names of an
object. -/
def listed : Json → Exchange (List Json)
  | .array items => .ok items
  | .text chars => .ok (chars.toList.map fun char => .text (String.singleton char))
  | .object members => .ok (members.map fun member => .text member.1)
  | document => .error (.misuse (.iteration (Value.verbatim document).kindName))

/-- What a member of an object lists; nothing if it is missing or null. -/
def listIn (document : Json) (name : String) : Exchange (List Json) :=
  match document.field name with
  | .null => .ok []
  | given => given.listed

/-- What a member of an object lists, which it needs. -/
def needList (document : Json) (name : String) : Exchange (List Json) := do
  (← document.need name).listed

/-- What a member of an object lists, as it is. -/
def valuesIn (document : Json) (name : String) : Exchange (List Value) := do
  return (← document.listIn name).map .verbatim

/-- The document is not null, false, zero or empty. -/
def isFilled (document : Json) : Bool := (Value.verbatim document).isFilled

/-- The named members that a document has: those of an object. What is null, false, zero or empty
has none. -/
def named : Json → Exchange (List (String × Json))
  | .object members => .ok members
  | document =>
    if document.isFilled then
      .error (.misuse (.operation (Value.verbatim document).kindName "items"))
    else .ok []

/-- The named members that a member of an object has. -/
def namedIn (document : Json) (name : String) : Exchange (List (String × Json)) :=
  (document.field name).named

/-- The document is an object. -/
def needObject : Json → Exchange Unit
  | .object _ => .ok ()
  | document => .error (.misuse (.operation (Value.verbatim document).kindName "get"))

/-- The document is an object, or null, false, zero or empty. -/
def allowObject (document : Json) : Exchange Unit :=
  if document.isFilled then document.needObject else .ok ()

/-- The text that the document is, or the plain text of what it is. -/
def plain (document : Json) : String := (Value.verbatim document).plain

/-- The member of an object as it is, or a value in its place if it is missing. -/
def valueIn (document : Json) (name : String) (default : Value) : Value :=
  ((document.field? name).map .verbatim).getD default

/-- The whole number that is a member of an object, or one in its place if it is missing. -/
def countIn (document : Json) (name : String) (default : Int) : Exchange Int :=
  Exchange.use (document.valueIn name (.integer default)).count

end Json

end SerialCheck

import SerialCheck.Json
import SerialCheck.Text.Quoted

/-!
# Writing JSON

Documents are written in ASCII, either on one line or with one member a line and an
indentation by depth.
-/
namespace SerialCheck.Json

/-- A sixteen-bit unit as an escape. -/
def unitEscape (unit : Nat) : List Char := '\\' :: 'u' :: Text.hexDigits 4 unit

/-- A character inside a quoted text. What is not printable ASCII is escaped, beyond sixteen
bits by a pair of units. -/
def escape (char : Char) : List Char :=
  let code := char.toNat
  if char == '\"' || char == '\\' then ['\\', char]
  else if char == '\n' then ['\\', 'n']
  else if char == '\r' then ['\\', 'r']
  else if char == '\t' then ['\\', 't']
  else if code == 8 then ['\\', 'b']
  else if code == 12 then ['\\', 'f']
  else if 0x20 ≤ code && code < 0x7F then [char]
  else if code < 0x10000 then unitEscape code
  else
    unitEscape (0xD800 + (code - 0x10000) / 0x400) ++
      unitEscape (0xDC00 + (code - 0x10000) % 0x400)

/-- A text in quotes. -/
def quoted (text : String) : String :=
  String.ofList ('\"' :: text.toList.flatMap escape ++ ['\"'])

/-- A line end followed by the indentation of a depth. -/
def newLine (depth : Nat) : String := "\n" ++ String.ofList (List.replicate (2 * depth) ' ')

/-- How the items of arrays and objects are set apart: what stands before the first one and
between others, before the closing bracket, and behind the name of a member, at a depth. -/
structure Style where
  /-- What stands before an item. -/
  before : Nat → String
  /-- What stands behind the colon of a member. -/
  colon : String

/-- Everything on one line. -/
def Style.oneLine : Style := ⟨fun _ => "", ""⟩

/-- Each item on a line of its own. -/
def Style.indented : Style := ⟨newLine, " "⟩

/-- Items in brackets; nothing between the brackets if there are none. -/
def block (style : Style) (opening closing : String) (depth : Nat) (items : List String) :
    String :=
  if items.isEmpty then opening ++ closing
  else
    opening ++ style.before (depth + 1) ++
      ("," ++ style.before (depth + 1)).intercalate items ++ style.before depth ++ closing

mutual

/-- The text of a document at a depth. -/
def render (style : Style) (depth : Nat) : Json → String
  | .null => "null"
  | .boolean value => if value then "true" else "false"
  | .number digits => digits
  | .text value => quoted value
  | .array items => block style "[" "]" depth (renderItems style (depth + 1) items)
  | .object members => block style "\x7b" "\x7d" depth (renderMembers style (depth + 1) members)

/-- The texts of the items of an array. -/
def renderItems (style : Style) (depth : Nat) : List Json → List String
  | [] => []
  | item :: items => item.render style depth :: renderItems style depth items

/-- The texts of the members of an object. -/
def renderMembers (style : Style) (depth : Nat) : List (String × Json) → List String
  | [] => []
  | (name, value) :: members =>
    (quoted name ++ ":" ++ style.colon ++ value.render style depth) ::
      renderMembers style depth members

end

end SerialCheck.Json

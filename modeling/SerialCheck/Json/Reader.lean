import SerialCheck.Json

/-!
# Reading JSON

A text is read from the left; blanks between its parts do not matter. Of two members of an
object with one name the later value counts, in the place of the earlier one.
-/
namespace SerialCheck.Json

/-- The value of a hexadecimal digit. -/
def hexValue? (char : Char) : Option Nat :=
  let code := char.toNat
  if 0x30 ≤ code && code ≤ 0x39 then some (code - 0x30)
  else if 0x61 ≤ code && code ≤ 0x66 then some (code - 0x61 + 10)
  else if 0x41 ≤ code && code ≤ 0x46 then some (code - 0x41 + 10)
  else none

/-- The number that hexadecimal digits denote. -/
def hexNumber? (chars : List Char) : Option Nat :=
  chars.foldlM (fun value char => (hexValue? char).map (16 * value + ·)) 0

/-- The character that an escape of one character means. -/
def escaped? (char : Char) : Option Char :=
  match char with
  | 'n' => some '\n'
  | 'r' => some '\r'
  | 't' => some '\t'
  | 'b' => some '\x08'
  | 'f' => some '\x0c'
  | '\"' => some '\"'
  | '\\' => some '\\'
  | '/' => some '/'
  | _ => none

/-- The character that a pair of sixteen-bit units stands for, if they are a pair. -/
def pair? (high low : Nat) : Option Char :=
  if 0xD800 ≤ high && high < 0xDC00 && 0xDC00 ≤ low && low < 0xE000 then
    some (Char.ofNat (0x10000 + (high - 0xD800) * 0x400 + (low - 0xDC00)))
  else none

/-- The characters of a text behind its opening quote, and what follows its closing one. -/
def readText? : List Char → Option (List Char × List Char)
  | [] => none
  | '\"' :: rest => some ([], rest)
  | '\\' :: 'u' :: a :: b :: c :: d :: rest => do
    let unit ← hexNumber? [a, b, c, d]
    let (chars, after) ← readText? rest
    match rest with
    | '\\' :: 'u' :: e :: f :: g :: h :: _ =>
      match pair? unit ((hexNumber? [e, f, g, h]).getD 0) with
      | some char => return (char :: chars.drop 1, after)
      | none => return (Char.ofNat unit :: chars, after)
    | _ => return (Char.ofNat unit :: chars, after)
  | '\\' :: char :: rest => do
    let char ← escaped? char
    let (chars, after) ← readText? rest
    return (char :: chars, after)
  | char :: rest => do
    let (chars, after) ← readText? rest
    return (char :: chars, after)

/-- The character is a blank between the parts of a document. -/
def isSpace (char : Char) : Bool := char == ' ' || char == '\t' || char == '\n' || char == '\r'

/-- The characters without the blanks at their front. -/
def skipSpaces (chars : List Char) : List Char := chars.dropWhile isSpace

/-- The character may occur in a number or a word. -/
def inWord (char : Char) : Bool := char.isAlphanum || char == '-' || char == '+' || char == '.'

/-- The document that a word stands for; a word of another meaning is a number. -/
def ofWord? (word : String) : Option Json :=
  if word.isEmpty then none
  else if word == "null" then some .null
  else if word == "true" then some (.boolean true)
  else if word == "false" then some (.boolean false)
  else some (.number word)

/-- Members with one more, in the place of an earlier one with its name if there is one. -/
def putMember (members : List (String × Json)) (name : String) (value : Json) :
    List (String × Json) :=
  if (members.lookup name).isSome then
    members.map fun member => if member.1 == name then (name, value) else member
  else members ++ [(name, value)]

mutual

/-- A document and what follows it, of at most the given depth and length. -/
def readValue? : Nat → List Char → Option (Json × List Char)
  | 0, _ => none
  | size + 1, chars =>
    match skipSpaces chars with
    | '\"' :: rest => do
      let (chars, rest) ← readText? rest
      return (.text (String.ofList chars), rest)
    | '[' :: rest => readItems? size [] rest
    | '\x7b' :: rest => readMembers? size [] rest
    | rest => do
      let value ← ofWord? (String.ofList (rest.takeWhile inWord))
      return (value, rest.dropWhile inWord)

/-- The array of the read items, of those that follow them, and what follows the array. -/
def readItems? : Nat → List Json → List Char → Option (Json × List Char)
  | 0, _, _ => none
  | size + 1, sofar, chars =>
    match skipSpaces chars with
    | ']' :: rest => some (.array sofar.reverse, rest)
    | ',' :: rest => readItems? size sofar rest
    | rest => do
      let (item, rest) ← readValue? size rest
      readItems? size (item :: sofar) rest

/-- The object of the read members, of those that follow them, and what follows the object. -/
def readMembers? : Nat → List (String × Json) → List Char → Option (Json × List Char)
  | 0, _, _ => none
  | size + 1, sofar, chars =>
    match skipSpaces chars with
    | '\x7d' :: rest => some (.object sofar, rest)
    | ',' :: rest => readMembers? size sofar rest
    | '\"' :: rest => do
      let (name, rest) ← readText? rest
      match skipSpaces rest with
      | ':' :: rest => do
        let (value, rest) ← readValue? size rest
        readMembers? size (putMember sofar (String.ofList name) value) rest
      | _ => none
    | _ => none

end

/-- The document that a text is. -/
def read? (text : String) : Option Json :=
  match readValue? (2 * text.length + 2) text.toList with
  | some (document, rest) => if (skipSpaces rest).isEmpty then some document else none
  | none => none

end SerialCheck.Json

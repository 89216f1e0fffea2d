import SerialCheck.Text.Word

/-!
# Comments and quoted texts

What stands in a comment or between quotes is hidden from the rest of a script. Each function
looks at the text behind a mark that opens something and tells how many characters there are up
to and with its end.
-/
namespace SerialCheck.Script

/-- How many characters there are up to and with the next line feed. -/
def lineLength : List Char → Nat
  | [] => 0
  | char :: tail => if char == '\n' then 1 else lineLength tail + 1

/-- How many characters there are up to and with the first occurrence of a mark. -/
def lengthThrough? (mark : List Char) : List Char → Option Nat
  | [] => none
  | char :: tail =>
    if mark.isPrefixOf (char :: tail) then some mark.length
    else (lengthThrough? mark tail).map (· + 1)

/-- A comment. -/
structure Comment where
  /-- It goes to the end of its line. -/
  isLine : Bool
  /-- A plus sign at its start makes it a hint. -/
  isHint : Bool
  /-- The number of its characters behind the first one. -/
  further : Nat
  deriving Repr, DecidableEq

/-- The comment that starts at a character. -/
def commentAt? (char : Char) : List Char → Option Comment
  | [] => none
  | next :: rest =>
    let isHint := rest.head? == some '+'
    if (char == '-' && next == '-') || (char == '#' && next == ' ') then
      some ⟨true, isHint, lineLength rest + 1⟩
    else if char == '/' && next == '*' then
      (lengthThrough? ['*', '/'] rest).map fun count => ⟨false, isHint, count + 1⟩
    else none

/-- How many characters there are up to and with the quote that ends a text. Inside the text a
quote is doubled or, where backslashes escape, stands behind one; a quote that no other one
follows ends the text in any case. -/
def quotedLength? (quote : Char) (escapes : Bool) : List Char → Option Nat
  | [] => none
  | [char] => if char == quote then some 1 else none
  | char :: next :: tail =>
    if next == quote && (char == quote || (escapes && char == '\\')) then
      match quotedLength? quote escapes tail with
      | some count => some (count + 2)
      | none => some (if char == quote then 1 else 2)
    else if char == quote then some 1
    else (quotedLength? quote escapes (next :: tail)).map (· + 1)

/-- How many characters there are up to and with the mark that ends a text between dollar
signs, which encloses a name, possibly empty, that is repeated at the end. -/
def dollarLength? (tail : List Char) : Option Nat :=
  let name := tail.take (Text.wordLength tail)
  let rest := tail.drop name.length
  if rest.head? == some '$' && name.head?.all (fun char => Text.startsName char || char == '_') then
    (lengthThrough? ('$' :: name ++ ['$']) (rest.drop 1)).map (name.length + 1 + ·)
  else none

/-- How many characters there are up to and with the bracket that ends a name. -/
def bracketLength? (tail : List Char) : Option Nat :=
  let name := tail.takeWhile fun char => char != '[' && char != ']'
  if !name.isEmpty && (tail.drop name.length).head? == some ']' then some (name.length + 1)
  else none

/-- The previous character is one of a word or one of the given ones. -/
def isBehind (previous : Option Char) (others : List Char) : Bool :=
  previous.any fun char => Text.isWordChar char || others.contains char

/-- The number of further characters of the quoted text or quoted name that starts at a
character. -/
def quotedAt? (previous : Option Char) (char : Char) (tail : List Char) : Option Nat :=
  if char == '\'' || char == '\"' then quotedLength? char true tail
  else if char == '\x60' || char == '\u00b4' then quotedLength? char false tail
  else if char == '$' && !isBehind previous ['\"', '$'] then dollarLength? tail
  else if char == '[' && !isBehind previous [']', ')'] then bracketLength? tail
  else none

end SerialCheck.Script

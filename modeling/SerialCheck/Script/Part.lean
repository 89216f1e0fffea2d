import SerialCheck.Script.Count
import SerialCheck.Script.Phrase
import SerialCheck.Script.Quotation
import SerialCheck.Text.Casing

/-!
# Parts of a script

A script consists of words, numbers, quoted texts, comments, operators and single characters.
For where statements end it matters which characters belong together: a semicolon inside a
quoted text or a comment ends nothing, and two minus signs inside an operator open no comment.
The parts of a script are the script (`flatMap_parts`).
-/
namespace SerialCheck.Script

/-- How a loop says what it runs over. -/
inductive LoopHead where
  /-- Over the members of something. -/
  | members
  /-- While a condition holds. -/
  | condition
  deriving Repr, DecidableEq

/-- What may be open while statements are nested in another one. -/
inductive Block where
  /-- A block of statements. -/
  | body
  /-- A branch. -/
  | branch
  /-- A case distinction. -/
  | cases
  /-- A loop, with what it runs over if it says so. -/
  | loop (head : Option LoopHead)
  deriving Repr, DecidableEq

/-- What a word means for where statements end. -/
inductive WordRole where
  /-- The statement defines something. -/
  | creates
  /-- Declarations of a body follow. -/
  | declares
  /-- A body or a transaction begins. -/
  | begins
  /-- What began is a transaction. -/
  | namesTransaction
  /-- A block other than a body begins, if one is open. -/
  | opens (block : Block)
  /-- What a loop runs over follows, if a block is open. -/
  | heads (head : LoopHead)
  /-- The body of a loop begins, if a block is open. -/
  | loops
  /-- The body of a loop begins, if what it runs over has been said. -/
  | runs
  /-- Whatever block is open ends. -/
  | ends
  /-- The innermost block ends if it is one of these. -/
  | closes (blocks : List Block)
  /-- The word ends the statement. -/
  | separates
  deriving Repr, DecidableEq

/-- What a part of a script means for where statements end. -/
inductive PartKind where
  /-- A blank other than a line end, or a line comment that is no hint. -/
  | filler
  /-- A line end, or a block comment that is no hint. -/
  | pause
  /-- A semicolon. -/
  | semicolon
  /-- An opening parenthesis. -/
  | opens
  /-- A closing parenthesis. -/
  | closes
  /-- A word that opens or closes something. -/
  | word (role : WordRole)
  /-- Anything else. -/
  | plain
  deriving Repr, DecidableEq

/-- A part of a script. -/
structure Part where
  /-- Its meaning. -/
  kind : PartKind
  /-- Its characters. -/
  chars : List Char
  deriving Repr, DecidableEq

/-! ## Words -/

/-- The words, and the phrases with one space between their words, that matter for where
statements end. -/
def wordRoles : List (String × WordRole) := [
  ("DECLARE", .declares), ("BEGIN", .begins), ("TRANSACTION", .namesTransaction),
  ("WORK", .namesTransaction), ("DEFERRED", .namesTransaction),
  ("IMMEDIATE", .namesTransaction), ("EXCLUSIVE", .namesTransaction), ("IF", .opens .branch),
  ("CASE", .opens .cases), ("FOR", .heads .members), ("WHILE", .heads .condition),
  ("LOOP", .loops), ("DO", .runs), ("END", .ends), ("END IF", .closes [.branch]),
  ("END CASE", .closes [.cases]), ("END FOR", .closes [.loop (some .members)]),
  ("END WHILE", .closes [.loop (some .condition)]),
  ("END LOOP", .closes [.loop none, .loop (some .members), .loop (some .condition)])]

/-- Phrases that keep their meaning before a period and before a parenthesis. -/
def firmPhrases : List Phrase := [[["CASE", "IN", "VALUES", "USING", "FROM", "AS"]]]

/-- The other phrases, the longer ones first. -/
def phrases : List Phrase := [
  [["END"], ["IF", "LOOP", "WHILE", "CASE", "FOR"]], [["END"]], [["IF"], ["NOT"], ["EXISTS"]],
  [["IF"], ["EXISTS"]], [["CREATE"], ["OR"], ["REPLACE"]], [["CREATE"]]] ++ Phrase.plain

/-- The meaning of a word or phrase. The word that separates statements is not recognized in
small letters. -/
def wordKind (word : List Char) : PartKind :=
  if word == ['G', 'O'] then .word .separates
  else ((wordRoles.lookup (Text.upper (String.ofList word))).elim .plain .word)

/-- The meaning of a phrase: one that starts with a word for creation defines something,
whatever stands between its words. -/
def phraseKind (phrase : List Char) : PartKind :=
  if (Text.afterWord? "CREATE".toList phrase).isSome then .word .creates else wordKind phrase

/-- The first of the given phrases that a text starts with: its meaning and its length. -/
def phraseAt? (phrases : List Phrase) (chars : List Char) : Option (PartKind × Nat) :=
  (phrases.findSome? fun phrase => phrase.length? chars).map fun length =>
    (phraseKind (chars.take length), length)

/-- A word that separates statements, one blank and a number behind it. -/
def repetitionAt? (chars : List Char) : Option (PartKind × Nat) :=
  (Text.afterWord? ['G', 'O'] chars).bind fun rest =>
    let count := digitCount (rest.drop 1)
    let follows := (rest.drop (count + 1)).head?.any Text.isWordChar
    if rest.head?.any Text.isBlank && 0 < count && !follows then
      some (wordKind (chars.take 2), count + 3)
    else none

/-- The word at the front of a text is a name: it stands behind a period or before a
parenthesis, or before a period that is not the one of a number. -/
def isNamed (previous : Option Char) (rest : List Char) : Bool :=
  let next := rest.dropWhile Text.isBlank
  previous == some '.' || rest.head? == some '(' ||
    (next.head? == some '.' && !(next.drop 1).head?.any isDigit)

/-- The character belongs to words behind their first character. -/
def continuesWord (char : Char) : Bool := Text.isWordChar char || char == '$' || char == '#'

/-- The meaning and the length of the word or number at the front of a text. -/
def wordAt (previous : Option Char) (chars : List Char) : PartKind × Nat :=
  let length := Text.wordLength chars
  match phraseAt? firmPhrases chars with
  | some found => found
  | none =>
    if chars.head?.any Text.startsName && isNamed previous (chars.drop length) then
      (.plain, length)
    else
      match numberLength? chars with
      | some length => (.plain, length)
      | none =>
        let zone := (Phrase.timeZoneLength? chars).map fun length => (PartKind.plain, length)
        match ((phraseAt? phrases chars).or (repetitionAt? chars)).or zone with
        | some found => found
        | none =>
          let word := chars.takeWhile continuesWord
          (wordKind word, word.length)

/-- The number of further characters of a word with a sign in front of it. -/
def markedLength? (previous : Option Char) (char : Char) (tail : List Char) : Option Nat :=
  let length := Text.wordLength tail
  if char == '\\' then if length == 0 then none else some length
  else if char == ':' || char == '$' then
    if length == 0 || isBehind previous [] then none else some length
  else if char == '%' then
    let name := Text.wordLength (tail.drop 1)
    let enclosed := 0 < name && tail.head? == some '(' && (tail.drop (name + 1)).head? == some ')'
    let given := if enclosed then name + 2 else 0
    (Text.afterWord? ['S'] (tail.drop given)).map fun _ => given + 1
  else if char == '@' || char == '#' then
    let second := if char == '#' && tail.head? == some '#' then 1 else 0
    let name := tail.drop second
    let length := Text.wordLength (name.drop 1)
    if 1 ≤ length && name.head?.any Text.startsName then some (second + 1 + length) else none
  else none

/-! ## Parts -/

/-- The character stands in comparisons. -/
def isComparison (char : Char) : Bool := ['<', '>', '=', '~', '!'].contains char

/-- The character stands in operators of several characters. -/
def isOperator (char : Char) : Bool :=
  ['+', '/', '@', '#', '%', '^', '&', '|', '-'].contains char

/-- The two characters belong together. -/
def isPair (first second : Char) : Bool :=
  [(':', ':'), (':', '='), ('<', '@'), ('@', '>'), ('-', '>'), ('#', '>'),
    ('#', '-')].contains (first, second)

/-- The number of further characters of the operator that starts at a character. -/
def operatorLength (char : Char) (tail : List Char) : Nat :=
  if (char == '-' || char == '#') && ['>', '>'].isPrefixOf tail then 2
  else if tail.head?.any (isPair char) then 1
  else if isComparison char then (tail.takeWhile isComparison).length
  else if isOperator char && char != '-' then (tail.takeWhile isOperator).length
  else 0

/-- The meaning of a character that is no part of a word, a comment or a quoted text. -/
def charKind (char : Char) : PartKind :=
  if char == ';' then .semicolon
  else if char == '(' then .opens
  else if char == ')' then .closes
  else if char == '\n' then .pause
  else if Text.isBlank char then .filler
  else .plain

/-- The meaning of a comment; a hint is a part like any other. -/
def Comment.kind (comment : Comment) : PartKind :=
  if comment.isHint then .plain else if comment.isLine then .filler else .pause

/-- A name starts at a character that does not belong to words elsewhere. -/
def isOddName (previous : Option Char) (char : Char) (tail : List Char) : Bool :=
  Text.startsName char && isNamed previous (tail.drop (Text.wordLength tail))

/-- The meaning of the part that starts at a character, with the number of its further
characters. -/
def partAt (previous : Option Char) (char : Char) (tail : List Char) : PartKind × Nat :=
  if Text.isWordChar char then
    let (kind, length) := wordAt previous (char :: tail)
    (kind, length - 1)
  else if isOddName previous char tail then (.plain, Text.wordLength tail)
  else
    match commentAt? char tail with
    | some comment => (comment.kind, comment.further)
    | none =>
      let number := (numberLength? (char :: tail)).map (· - 1)
      match ((quotedAt? previous char tail).or (markedLength? previous char tail)).or number with
      | some further => (.plain, further)
      | none => (charKind char, operatorLength char tail)

/-- The parts of a script behind the given character; `pending` counts the characters of the
last part still to be passed. -/
def parts (previous : Option Char) : List Char → Nat → List Part
  | [], _ => []
  | char :: tail, pending + 1 => parts (some char) tail pending
  | char :: tail, 0 =>
    let (kind, further) := partAt previous char tail
    ⟨kind, char :: tail.take further⟩ :: parts (some char) tail further

/-- The parts are the characters that are not passed. -/
theorem flatMap_parts (previous : Option Char) (chars : List Char) (pending : Nat) :
    (parts previous chars pending).flatMap Part.chars = chars.drop pending := by
  induction chars generalizing previous pending with
  | nil => simp [parts]
  | cons char tail hypothesis =>
    cases pending with
    | zero => simp [parts, hypothesis]
    | succ pending => simp [parts, hypothesis]

end SerialCheck.Script

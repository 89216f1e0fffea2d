import SerialCheck.Script.Part
import SerialCheck.Text.Blank
import SerialCheck.Text.Lines

/-!
# Scripts

A script is cut into statements at semicolons outside of quotes, comments, parentheses and
blocks of statements. Spaces and line comments behind a semicolon still belong to the statement
before it. No character of the script is lost (`flatten_pieces`).
-/
namespace SerialCheck.Script

/-- A statement of which the parts are being read. -/
structure Reading where
  /-- How many parentheses are open in it; declarations in front of a body count as one. -/
  depth : Int := 0
  /-- It is a definition. -/
  defines : Bool := false
  /-- It has declarations, and the body behind them has not begun. -/
  declares : Bool := false
  /-- The blocks that are open, the innermost one first. -/
  blocks : List Block := []
  /-- A body or a transaction began with its last part, blanks and comments aside. -/
  begun : Bool := false
  /-- What the loop runs over whose body has not begun. -/
  head : Option LoopHead := none
  /-- Its end has been met. -/
  ended : Bool := false
  deriving Repr, DecidableEq

namespace Reading

/-- The statement deeper by the given number. -/
def deepen (reading : Reading) (change : Int) : Reading :=
  { reading with depth := reading.depth + change }

/-- The statement without its innermost block. -/
def leaveBlock (reading : Reading) : Reading := { reading with blocks := reading.blocks.tail }

/-- The statement after a body has begun, which ends the declarations in front of it. -/
def enterBody (reading : Reading) : Reading :=
  let entered := { reading with blocks := .body :: reading.blocks, declares := false }
  if reading.declares then entered.deepen (-1) else entered

/-- The statement with one more block, if one is open. -/
def openBlock (reading : Reading) (block : Block) : Reading :=
  if reading.blocks.isEmpty then reading else { reading with blocks := block :: reading.blocks }

/-- The statement with a loop, if a block is open. -/
def enterLoop (reading : Reading) : Reading :=
  { reading.openBlock (.loop reading.head) with head := none }

/-- What a word does to a statement, apart from being its last part. -/
def applyWord (reading : Reading) : WordRole → Reading
  | .creates => { reading with defines := true }
  | .declares =>
    if reading.defines && reading.blocks.isEmpty && !reading.declares then
      { reading with declares := true }.deepen 1
    else reading
  | .begins => reading.enterBody
  | .namesTransaction => if reading.begun then reading.leaveBlock else reading
  | .opens block => reading.openBlock block
  | .heads head => if reading.blocks.isEmpty then reading else { reading with head := some head }
  | .loops => reading.enterLoop
  | .runs => if reading.head.isSome then reading.enterLoop else reading
  | .ends =>
    if reading.blocks.isEmpty then { reading with declares := false }.deepen (-1)
    else reading.leaveBlock
  | .closes blocks =>
    if reading.blocks.head?.any blocks.contains then reading.leaveBlock else reading
  | .separates => { reading with ended := true }

/-- What a semicolon does to a statement: it ends the statement unless something is open. A
beginning right before it is that of a transaction and opens no block. -/
def applySemicolon (reading : Reading) : Reading :=
  let left := if reading.begun then reading.leaveBlock else reading
  { left with
    begun := false
    head := none
    ended := left.ended || (left.depth ≤ 0 && left.blocks.isEmpty) }

/-- What a part of the given kind does to a statement. -/
def take (reading : Reading) : PartKind → Reading
  | .filler | .pause => reading
  | .semicolon => reading.applySemicolon
  | .opens => { reading with begun := false }.deepen 1
  | .closes => { reading with begun := false }.deepen (-1)
  | .word role => { reading.applyWord role with begun := role == .begins }
  | .plain => { reading with begun := false }

end Reading

/-- Characters put in front of the first piece. -/
def prepend (chars : List Char) : List (List Char) → List (List Char)
  | [] => [chars]
  | piece :: pieces => (chars ++ piece) :: pieces

/-- What remains of the statement that is being read, and the statements behind it. -/
def pieces (reading : Reading) : List Part → List (List Char)
  | [] => [[]]
  | part :: rest =>
    if reading.ended && part.kind != .filler then
      [] :: prepend part.chars (pieces (Reading.take {} part.kind) rest)
    else prepend part.chars (pieces (reading.take part.kind) rest)

/-- Nothing but the characters in front is added. -/
theorem flatten_prepend (chars : List Char) (pieces : List (List Char)) :
    (prepend chars pieces).flatten = chars ++ pieces.flatten := by
  cases pieces <;> simp [prepend]

/-- The statements of a script lose no character of its parts. -/
theorem flatten_pieces (reading : Reading) (given : List Part) :
    (pieces reading given).flatten = given.flatMap Part.chars := by
  induction given generalizing reading with
  | nil => simp [pieces]
  | cons part rest hypothesis =>
    simp only [pieces]
    split <;> simp [flatten_prepend, hypothesis]

/-- A statement without blanks around it and without its semicolons. -/
def clean (chars : List Char) : String :=
  Text.trim (Text.trimEndOf ';' (Text.trim (String.ofList chars)))

/-- The statements of a script. -/
def statements (script : String) : List String :=
  let chars := Text.unifyLineEnds script.toList
  ((pieces {} (parts none chars 0)).map clean).filter fun text => !text.isEmpty

end SerialCheck.Script

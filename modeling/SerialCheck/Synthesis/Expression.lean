import SerialCheck.Schema

/-!
# Expressions

Constants and predicates over the columns of a table: their structure, their text and their
random generation. Connectives are nested at most as deep as the generator is told.
-/
namespace SerialCheck

/-- A constant in a statement. -/
inductive Constant where
  /-- The null value. -/
  | null
  /-- A whole number. -/
  | int (value : Int)
  /-- A truth value. -/
  | boolean (value : Bool)
  /-- A decimal number: what stands before the point and after it. -/
  | numeric (whole fraction : Int)
  /-- A text. -/
  | text (value : String)
  deriving Repr, DecidableEq

namespace Constant

/-- A character inside a quoted constant: a quote is written twice. -/
def quoteChar (char : Char) : List Char := if char == '\'' then ['\'', '\''] else [char]

/-- The text of a constant. -/
def render : Constant → String
  | .null => "NULL"
  | .int value => toString value
  | .boolean value => if value then "TRUE" else "FALSE"
  | .numeric whole fraction => s!"{whole}.{fraction}"
  | .text value => "'" ++ String.ofList (value.toList.flatMap quoteChar) ++ "'"

/-- The least number that is drawn. -/
def minNumber : Int := -10

/-- The first number that is too great to be drawn. -/
def numberBound : Int := 100

/-- The greatest length of a text that is drawn. -/
def maxTextLength : Int := 5

/-- A constant of a type that is not null. -/
def drawProper : DataType → Draw Constant
  | .int => return .int (← Draw.number minNumber numberBound)
  | .boolean => return .boolean (← Draw.oneOf true [false])
  | .numeric => do
    let whole ← Draw.number minNumber numberBound
    let fraction ← Draw.fresh 0 numberBound
    return .numeric whole fraction
  | .text => return .text (← Draw.text maxTextLength)

/-- A constant of a type; seldom null. -/
def draw (dataType : DataType) : Draw Constant := do
  if ← Draw.seldom then return .null else drawProper dataType

end Constant

/-- A word between two predicates. -/
inductive Connective where
  /-- Both hold. -/
  | and
  /-- One of them holds. -/
  | or
  deriving Repr, DecidableEq

/-- The text of a connective. -/
def Connective.render : Connective → String
  | .and => "AND"
  | .or => "OR"

/-- A comparison operator. -/
inductive Operator where
  /-- Equal. -/
  | equal
  /-- Not equal. -/
  | notEqual
  /-- Less. -/
  | less
  /-- Less or equal. -/
  | atMost
  /-- Greater. -/
  | greater
  /-- Greater or equal. -/
  | atLeast
  deriving Repr, DecidableEq

/-- The text of an operator. -/
def Operator.render : Operator → String
  | .equal => "="
  | .notEqual => "<>"
  | .less => "<"
  | .atMost => "<="
  | .greater => ">"
  | .atLeast => ">="

/-- Any operator. -/
def Operator.draw : Draw Operator :=
  Draw.oneOf .equal [.notEqual, .less, .atMost, .greater, .atLeast]

/-- A predicate over the columns of a table. -/
inductive Predicate where
  /-- Two predicates joined by a connective. -/
  | joined (left : Predicate) (connective : Connective) (right : Predicate)
  /-- A column is null, or is not. -/
  | isNull (column : String) (negated : Bool)
  /-- A column is compared with a constant. -/
  | compare (column : String) (operator : Operator) (constant : Constant)
  deriving Repr, DecidableEq

namespace Predicate

/-- The text of a predicate, in parentheses. -/
def render : Predicate → String
  | .joined left connective right =>
    "(" ++ left.render ++ " " ++ connective.render ++ " " ++ right.render ++ ")"
  | .isNull column negated =>
    "(" ++ column ++ " IS " ++ (if negated then "NOT NULL" else "NULL") ++ ")"
  | .compare column operator constant =>
    "(" ++ column ++ " " ++ operator.render ++ " " ++ constant.render ++ ")"

/-- How deep connectives are nested at most. -/
def maxDepth : Nat := 2

/-- How many levels of connectives there may be where only chance is a limit. -/
def boundless : Nat := 1000

/-- How many levels of connectives there may be at a depth, which may be a number of any kind: one
for each step by which it is below the greatest one. -/
def levelsAt (depth : Value) : Except Misuse Nat :=
  match depth.number? with
  | some (.whole depth) => .ok ((maxDepth : Int) - depth).toNat
  | some (.binary depth) =>
    match depth.quantity with
    | .finite depth => .ok ((maxDepth : Rat) - depth).ceil.toNat
    | .minusInfinity => .ok boundless
    | .infinity | .nan => .ok 0
  | some (.decimal depth) =>
    let whole := depth.truncated
    if depth.isNan then .error .undefined
    else if (Number.decimal depth).lt (.whole whole) then .ok (maxDepth + 1 - whole).toNat
    else .ok (maxDepth - whole).toNat
  | none => .error (.order "<" depth.kindName "int")

/-- A predicate about one column. -/
def drawSimple (columns : List Column) : Attempt Predicate := do
  let column ← Attempt.member columns
  if ← Draw.seldom then return .isNull column.name (← (Draw.oneOf false [true] : Draw Bool))
  else
    let operator ← Operator.draw
    let constant ← Constant.draw column.dataType
    return .compare column.name operator constant

/-- A predicate over columns with connectives nested at most as deep as given. -/
def draw (columns : List Column) : Nat → Attempt Predicate
  | 0 => drawSimple columns
  | depth + 1 => do
    if ← Draw.seldom then
      let left ← draw columns depth
      let right ← draw columns depth
      return .joined left (← (Draw.oneOf .and [.or] : Draw Connective)) right
    else drawSimple columns

end Predicate

end SerialCheck

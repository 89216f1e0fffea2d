import SerialCheck.Sorted
import SerialCheck.Text.Search
import SerialCheck.Value.Use

/-!
# Comparing result sets

A result set has no order, so two of them are compared by the sorted canonical texts of their
rows. A canonical text marks the null value by a character that no database text holds and
escapes the separator of members, so that different rows have different texts.
-/
namespace SerialCheck

/-- The rows of a result set, or the contents of a table. -/
abbrev Rows := List Value

namespace Rows

/-- The canonical text of the null value. -/
def nullMark : String := "\x00[NULL]"

/-- One character of a member inside a list: the separator and the escape are escaped. -/
def escapeChar (char : Char) : List Char :=
  if char == '\\' || char == ',' then ['\\', char] else [char]

/-- The canonical text of a member inside a list. -/
def escape (text : String) : String := String.ofList (text.toList.flatMap escapeChar)

mutual

/-- The canonical text of a value: lists in parentheses, byte strings in hexadecimal digits,
all else by its plain text. -/
def canonical : Value → String
  | .null => nullMark
  | .row members => "(" ++ ", ".intercalate (canonicalMembers members) ++ ")"
  | .array members => "(" ++ ", ".intercalate (canonicalMembers members) ++ ")"
  | .bytes value => Text.hexText value
  | .buffer value => Text.hexText value
  | .boolean value => (Value.boolean value).plain
  | .integer value => (Value.integer value).plain
  | .real value => (Value.real value).plain
  | .decimal value => (Value.decimal value).plain
  | .mapping entries => (Value.mapping entries).plain
  | .text value => value

/-- The escaped canonical texts of the members of a list. -/
def canonicalMembers : List Value → List String
  | [] => []
  | member :: members => escape (canonical member) :: canonicalMembers members

end

/-- The form in which a canonical text is shown. -/
def display (text : String) : String := Text.replace text nullMark "[NULL]"

/-- The canonical texts of the rows, in ascending order. -/
def normalized (rows : Rows) : List String := sortTexts (rows.map canonical)

/-- How two result sets differ. -/
inductive Difference where
  /-- Only one of the statements returned rows. -/
  | oneMissing
  /-- The numbers of rows differ. -/
  | sizes (left right : Nat)
  /-- The first position at which the sorted rows differ, with both rows. -/
  | rows (position : Nat) (left right : String)
  deriving Repr, DecidableEq

/-- The description of a difference. -/
def Difference.message : Difference → String
  | .oneMissing => "One query result is NULL"
  | .sizes left right => s!"The size of query results is different ({left} vs {right})"
  | .rows position left right =>
    s!"({position})th values is different [{display left}, {display right}]"

/-- The first position from the given one on at which two lists of texts differ. -/
def firstDifference? (position : Nat) : List String → List String → Option Difference
  | left :: lefts, right :: rights =>
    if left = right then firstDifference? (position + 1) lefts rights
    else some (.rows position left right)
  | _, _ => none

/-- The difference of two result sets, none if they have the same rows. -/
def difference? : Option Rows → Option Rows → Option Difference
  | none, none => none
  | some left, some right =>
    if left.length ≠ right.length then some (.sizes left.length right.length)
    else firstDifference? 0 (normalized left) (normalized right)
  | _, _ => some .oneMissing

/-- The description of the difference of two result sets, empty if they have the same rows. -/
def report (left right : Option Rows) : String := (difference? left right).elim "" Difference.message

/-- The texts of the first list that have no counterpart in the second one, and the texts of
the second one that are left; each counterpart is used once. -/
def unmatched : List String → List String → List String × List String
  | [], rights => ([], rights)
  | left :: lefts, rights =>
    if rights.contains left then unmatched lefts (rights.erase left)
    else
      let (only, rest) := unmatched lefts rights
      (left :: only, rest)

/-- The first texts up to a limit; a negative limit leaves out so many at the end. -/
def takeUpTo (limit : Int) (texts : List String) : List String :=
  if 0 ≤ limit then texts.take limit.toNat else texts.take (texts.length - (-limit).toNat)

/-- The rows that only one of the two result sets has, as they are shown, each side up to a
limit. A negative limit shows nothing of the first side. -/
def mismatches (limit : Int) (left right : Rows) : List String × List String :=
  let (only, rest) := unmatched (normalized left) (normalized right)
  ((only.take limit.toNat).map display, (takeUpTo limit rest).map display)

/-- The rows that only one of the two result sets has, where the limit may be a value of any
kind. A limit that has no order is a misuse as soon as there is a row to be counted, and one that
is no whole number as the end of a list. -/
def mismatchesWithin (limit : Value) (left right : Rows) :
    Except Misuse (List String × List String) := do
  let (only, rest) := unmatched (normalized left) (normalized right)
  match limit with
  | .null =>
    if only.isEmpty then return ([], rest.map display) else throw (.order "<" "int" limit.kindName)
  | limit =>
    if !only.isEmpty then discard ((Value.integer 0).isBelow limit)
    match limit.count with
    | .ok count => return mismatches count left right
    | .error _ => throw .slice

end Rows

end SerialCheck

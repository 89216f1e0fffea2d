/-!
# Lines of a text

A line ends at a line feed, at a carriage return, at both in this order, or at one of the
other separators; a last line without an end counts too.
-/
namespace SerialCheck.Text

/-- The character ends a line. -/
def isLineEnd (char : Char) : Bool :=
  let code := char.toNat
  (0xA ≤ code && code ≤ 0xD) || (0x1C ≤ code && code ≤ 0x1E) || code == 0x85 ||
    code == 0x2028 || code == 0x2029

/-- The lines of the characters that follow `unfinished`, the characters of an unfinished line in
reverse. -/
def linesFrom (unfinished : List Char) : List Char → List (List Char)
  | [] => if unfinished.isEmpty then [] else [unfinished.reverse]
  | '\r' :: '\n' :: tail => unfinished.reverse :: linesFrom [] tail
  | head :: tail =>
    if isLineEnd head then unfinished.reverse :: linesFrom [] tail
    else linesFrom (head :: unfinished) tail

/-- The lines of a text, without their ends. -/
def lines (text : String) : List String := (linesFrom [] text.toList).map String.ofList

/-- The characters with each carriage return, and each carriage return with its line feed,
written as one line feed. -/
def unifyLineEnds : List Char → List Char
  | [] => []
  | '\r' :: '\n' :: tail => '\n' :: unifyLineEnds tail
  | head :: tail => (if head == '\r' then '\n' else head) :: unifyLineEnds tail

end SerialCheck.Text

/-!
# Blanks around a text

`trim` removes blank characters from both ends of a text and nothing else.
-/
namespace SerialCheck.Text

/-- The character is white space: the ASCII blanks with the four information separators, the
next-line character and the Unicode space, line and paragraph separators. -/
def isBlank (char : Char) : Bool :=
  let code := char.toNat
  (0x9 ≤ code && code ≤ 0xD) || (0x1C ≤ code && code ≤ 0x20) || code == 0x85 || code == 0xA0 ||
    code == 0x1680 || (0x2000 ≤ code && code ≤ 0x200A) || code == 0x2028 || code == 0x2029 ||
    code == 0x202F || code == 0x205F || code == 0x3000

/-- The characters without those at the end that satisfy the test. -/
def dropEndWhile (test : Char → Bool) (chars : List Char) : List Char :=
  (chars.reverse.dropWhile test).reverse

/-- The characters without those at either end that satisfy the test. -/
def trimWhile (test : Char → Bool) (chars : List Char) : List Char :=
  dropEndWhile test (chars.dropWhile test)

/-- The text without blanks at its ends. -/
def trim (text : String) : String := String.ofList (trimWhile isBlank text.toList)

/-- The text without the given character at its end. -/
def trimEndOf (char : Char) (text : String) : String :=
  String.ofList (dropEndWhile (· == char) text.toList)

end SerialCheck.Text

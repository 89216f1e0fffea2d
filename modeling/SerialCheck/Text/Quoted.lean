import SerialCheck.Text.Casing
import SerialCheck.Text.PrintableTable

/-!
# Quoted text

A quoted text shows every character: quotes and backslashes are escaped, line ends and tabs
have short escapes, and any other character without a visible form is written by its code.
-/
namespace SerialCheck.Text

/-- The character has a visible form, the space included. -/
def isPrintable (char : Char) : Bool :=
  if char.toNat < 128 then 0x20 ≤ char.toNat && char.toNat < 0x7F
  else !inRanges unprintableRanges char.toNat

/-- A hexadecimal digit. -/
def hexDigit (value : Nat) : Char := "0123456789abcdef".toList.getD value '0'

/-- The last `width` hexadecimal digits of a number. -/
def hexDigits : Nat → Nat → List Char
  | 0, _ => []
  | width + 1, value => hexDigits width (value / 16) ++ [hexDigit (value % 16)]

/-- The quote in which a text is written: the double one only if that avoids escapes. -/
def quoteFor (chars : List Char) : Char :=
  if chars.contains '\'' && !chars.contains '\"' then '\"' else '\''

/-- One character inside the given quotes. -/
def escapeIn (quote char : Char) : List Char :=
  if char == quote || char == '\\' then ['\\', char]
  else if char == '\n' then ['\\', 'n']
  else if char == '\r' then ['\\', 'r']
  else if char == '\t' then ['\\', 't']
  else if isPrintable char then [char]
  else if char.toNat < 0x100 then '\\' :: 'x' :: hexDigits 2 char.toNat
  else if char.toNat < 0x10000 then '\\' :: 'u' :: hexDigits 4 char.toNat
  else '\\' :: 'U' :: hexDigits 8 char.toNat

/-- The text in quotes. -/
def quoted (text : String) : String :=
  let quote := quoteFor text.toList
  String.ofList (quote :: text.toList.flatMap (escapeIn quote) ++ [quote])

/-- One byte inside the given quotes: as a character if it is a visible ASCII one, else by an
escape. -/
def escapeByteIn (quote : Char) (byte : UInt8) : List Char :=
  let char := Char.ofNat byte.toNat
  if byte.toNat < 128 then escapeIn quote char else '\\' :: 'x' :: hexDigits 2 byte.toNat

/-- A byte string in quotes, marked by the letter before them. -/
def quotedBytes (bytes : List UInt8) : String :=
  let quote := quoteFor (bytes.map fun byte => Char.ofNat byte.toNat)
  String.ofList ('b' :: quote :: bytes.flatMap (escapeByteIn quote) ++ [quote])

/-- A byte string as pairs of hexadecimal digits. -/
def hexText (bytes : List UInt8) : String :=
  String.ofList (bytes.flatMap fun byte => hexDigits 2 byte.toNat)

/-- Texts in quotes, separated by commas, in square brackets. -/
def quotedList (texts : List String) : String :=
  "[" ++ ", ".intercalate (texts.map quoted) ++ "]"

end SerialCheck.Text

import SerialCheck.Text.Casing
import SerialCheck.Text.WordTable

/-!
# Words

Which characters words consist of, which ones names begin with, and comparison with a word
whatever the case of its letters. What follows a word is the text without as many characters
(`eq_drop_of_afterWord?`).
-/
namespace SerialCheck.Text

/-- The character belongs to words: a letter, a numeral or the underscore. -/
def isWordChar (char : Char) : Bool :=
  if char.toNat < 128 then char.isAlphanum || char == '_' else inRanges wordRanges char.toNat

/-- Code points that names begin with: the letters without and with a mark of the first two
blocks up to the letter U with two dots, and the characters with the same capitals. -/
def nameStartRanges : List (Nat × Nat) := [
  (0x41, 0x5A), (0x61, 0x7A), (0xC0, 0xDC), (0xE0, 0xF6), (0xF8, 0xFC), (0x130, 0x131),
  (0x17F, 0x17F), (0x212A, 0x212B)]

/-- A name may begin with the character. -/
def startsName (char : Char) : Bool := inRanges nameStartRanges char.toNat

/-- The capital with which a letter is compared: besides the small letters of ASCII, the letter
i with and without its dot, the long s and the sign of the unit kelvin have one. -/
def capital (char : Char) : Char :=
  if char == '\u0130' || char == '\u0131' then 'I'
  else if char == '\u017f' then 'S'
  else if char == '\u212a' then 'K'
  else char.toUpper

/-- What follows a word, given in capitals, at the front of a text. -/
def afterWord? : List Char → List Char → Option (List Char)
  | [], rest => some rest
  | _, [] => none
  | letter :: word, char :: rest => if capital char == letter then afterWord? word rest else none

/-- What follows a word is the text without as many characters. -/
theorem eq_drop_of_afterWord? {word chars rest : List Char}
    (found : afterWord? word chars = some rest) : rest = chars.drop word.length := by
  induction word generalizing chars with
  | nil => simpa [afterWord?] using found.symm
  | cons letter word hypothesis =>
    cases chars with
    | nil => simp [afterWord?] at found
    | cons char tail =>
      simp only [afterWord?] at found
      split at found
      · simpa using hypothesis found
      · simp at found

/-- How many word characters stand at the front of a text. -/
def wordLength (chars : List Char) : Nat := (chars.takeWhile isWordChar).length

end SerialCheck.Text

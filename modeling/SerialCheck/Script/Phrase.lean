import SerialCheck.Text.Word
import SerialCheck.Text.Blank

/-!
# Phrases

Some words of a script belong together, with any blanks between them, and end where a word
ends: what directly follows them is not read as a part of their last word. A phrase is a list
of places, each with the words that may stand there.
-/
namespace SerialCheck.Script

/-- The words, in capitals, that may stand at the places of a phrase. -/
abbrev Phrase := List (List String)

namespace Phrase

/-- What follows the words of a phrase at the front of a text. -/
def rest? : Phrase → List Char → Option (List Char)
  | [], chars => some chars
  | words :: more, chars =>
    words.findSome? fun word =>
      (Text.afterWord? word.toList chars).bind fun rest =>
        if more.isEmpty then some rest
        else if rest.head?.any Text.isBlank then rest? more (rest.dropWhile Text.isBlank)
        else none

/-- The length of a phrase at the front of a text, where a word has to end with it. -/
def length? (phrase : Phrase) (chars : List Char) : Option Nat :=
  (phrase.rest? chars).bind fun rest =>
    if rest.head?.any Text.isWordChar then none else some (chars.length - rest.length)

/-- Words that have no meaning for where statements end, the longer phrases first. -/
def plain : List Phrase := [
  [["LEFT", "RIGHT", "FULL"], ["INNER", "OUTER", "STRAIGHT"], ["JOIN"]],
  [["LEFT", "RIGHT", "FULL", "INNER", "OUTER", "STRAIGHT", "CROSS", "NATURAL"], ["JOIN"]],
  [["JOIN"]],
  [["NOT"], ["NULL", "LIKE", "ILIKE", "RLIKE", "REGEXP"]],
  [["LIKE", "ILIKE", "RLIKE", "REGEXP"]],
  [["ASC", "DESC"], ["NULLS"], ["FIRST", "LAST"]],
  [["ASC", "DESC"]],
  [["NULLS"], ["FIRST", "LAST"]],
  [["UNION"], ["ALL"]],
  [["DOUBLE"], ["PRECISION"]],
  [["GROUP", "ORDER"], ["BY"]],
  [["PRIMARY"], ["KEY"]],
  [["HANDLER"], ["FOR"]],
  [["LATERAL"], ["VIEW"], ["EXPLODE", "INLINE", "PARSE_URL_TUPLE", "POSEXPLODE", "STACK"]]]

/-- The length of a conversion to a time zone, up to and with the first quote behind the one
that opens the name of the zone. -/
def timeZoneLength? (chars : List Char) : Option Nat :=
  (rest? [["AT", "WITH\'"], ["TIME"], ["ZONE"], ["\'"]] chars).bind fun rest =>
    let name := rest.takeWhile (· != '\'')
    if name.isEmpty || name.length == rest.length then none
    else some (chars.length - rest.length + name.length + 1)

end Phrase

end SerialCheck.Script

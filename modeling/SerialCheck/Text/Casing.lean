import SerialCheck.Text.CaseTable

/-!
# Letter case

Full case conversion: a character may change into several, and a sigma at the end of a word
has a lower-case form of its own. Beyond ASCII the conversion reads the tables of
`CaseTable`.
-/
namespace SerialCheck.Text

/-- A code point lies in one of the ranges. -/
def inRanges (ranges : List (Nat × Nat)) (code : Nat) : Bool :=
  ranges.any fun range => range.1 ≤ code && code ≤ range.2

/-- The change that the tables give for a character beyond ASCII. -/
def changeCase (runs : List CaseRun) (expansions : List (Nat × List Nat)) (char : Char) :
    List Char :=
  match expansions.lookup char.toNat with
  | some codes => codes.map Char.ofNat
  | none =>
    match runs.find? (·.covers char.toNat) with
    | some run => [Char.ofNat ((char.toNat : Int) + run.shift).toNat]
    | none => [char]

/-- The capital sigma, whose lower case depends on its place in the word. -/
def capitalSigma : Char := 'Σ'

/-- The lower case of one character; `final` says that a sigma here ends its word. -/
def lowerChar (final : Bool) (char : Char) : List Char :=
  if char.toNat < 128 then
    if 'A' ≤ char && char ≤ 'Z' then [Char.ofNat (char.toNat + 32)] else [char]
  else if char == capitalSigma then [if final then 'ς' else 'σ']
  else changeCase lowerRuns lowerExpansions char

/-- The upper case of one character. -/
def upperChar (char : Char) : List Char :=
  if char.toNat < 128 then
    if 'a' ≤ char && char ≤ 'z' then [Char.ofNat (char.toNat - 32)] else [char]
  else changeCase upperRuns upperExpansions char

/-- The character has a case. -/
def isCased (char : Char) : Bool := inRanges casedRanges char.toNat

/-- The character is passed over when looking for a cased neighbour. -/
def isCaseIgnorable (char : Char) : Bool := inRanges caseIgnorableRanges char.toNat

/-- The nearest character that is not passed over has a case. -/
def meetsCased : List Char → Bool
  | [] => false
  | head :: tail => if isCaseIgnorable head then meetsCased tail else isCased head

/-- The lower case of the characters that follow those of `before`, the nearest one first. -/
def lowerFrom (before : List Char) : List Char → List Char
  | [] => []
  | head :: tail =>
    let final := head == capitalSigma && meetsCased before && !meetsCased tail
    lowerChar final head ++ lowerFrom (head :: before) tail

/-- The text in lower case. -/
def lower (text : String) : String := String.ofList (lowerFrom [] text.toList)

/-- The text in upper case. -/
def upper (text : String) : String := String.ofList (text.toList.flatMap upperChar)

end SerialCheck.Text

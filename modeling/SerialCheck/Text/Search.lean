/-!
# Searching and cutting text

Searches run over the characters of a text, so each is a structural recursion. A pattern is
found exactly where the text can be cut around it (`contains_iff`), and `splitAt` and `join`
undo each other (`join_splitAt`).
-/
namespace SerialCheck.Text

/-- The characters of the pattern stand somewhere in the text, next to each other. -/
def hasSegment (pattern : List Char) : List Char → Bool
  | [] => pattern.isEmpty
  | head :: tail => pattern.isPrefixOf (head :: tail) || hasSegment pattern tail

/-- The pattern occurs in the text. -/
def contains (text pattern : String) : Bool := hasSegment pattern.toList text.toList

/-- The text begins with the pattern. -/
def startsWith (text pattern : String) : Bool := pattern.toList.isPrefixOf text.toList

/-- The text from the given character on. -/
def dropChars (count : Nat) (text : String) : String := String.ofList (text.toList.drop count)

/-- The given number of characters from the front of the text. -/
def takeChars (count : Nat) (text : String) : String := String.ofList (text.toList.take count)

/-- One pattern occurs and, after it on the same line, the other one. -/
def hasInLine (first second : List Char) : List Char → Bool
  | [] => false
  | head :: tail =>
    (first.isPrefixOf (head :: tail) &&
        hasSegment second (((head :: tail).drop first.length).takeWhile (· != '\n'))) ||
      hasInLine first second tail

/-- One pattern is followed by the other one on the same line of the text. -/
def containsInLine (text first second : String) : Bool :=
  hasInLine first.toList second.toList text.toList

/-- The characters after the first occurrence of the pattern, if it occurs. -/
def afterSegment? (pattern : List Char) : List Char → Option (List Char)
  | [] => if pattern.isEmpty then some [] else none
  | head :: tail =>
    if pattern.isPrefixOf (head :: tail) then some ((head :: tail).drop pattern.length)
    else afterSegment? pattern tail

/-- The characters with every occurrence of a word replaced, occurrences being taken from the
left without overlap; `pending` counts the characters of the last one still to be passed. -/
def replaceWord (word replacement : List Char) : List Char → Nat → List Char
  | [], _ => []
  | _ :: tail, pending + 1 => replaceWord word replacement tail pending
  | head :: tail, 0 =>
    if word.isPrefixOf (head :: tail) then
      replacement ++ replaceWord word replacement tail (word.length - 1)
    else head :: replaceWord word replacement tail 0

/-- The text with every occurrence of a nonempty word replaced. -/
def replace (text word replacement : String) : String :=
  String.ofList (replaceWord word.toList replacement.toList text.toList 0)

/-- The pieces between the occurrences of a separator; always at least one. -/
def splitAt (separator : Char) : List Char → List (List Char)
  | [] => [[]]
  | head :: tail =>
    if head == separator then [] :: splitAt separator tail
    else
      match splitAt separator tail with
      | [] => [[head]]
      | piece :: pieces => (head :: piece) :: pieces

/-- Pieces with a separator between neighbours. -/
def join (separator : Char) : List (List Char) → List Char
  | [] => []
  | [piece] => piece
  | piece :: next :: pieces => piece ++ separator :: join separator (next :: pieces)

/-- Cutting leaves at least one piece. -/
theorem splitAt_ne_nil (separator : Char) (text : List Char) : splitAt separator text ≠ [] := by
  cases text with
  | nil => simp [splitAt]
  | cons head tail =>
    simp only [splitAt]
    split
    · simp
    · split <;> simp

/-- Joining the pieces of a text gives the text back. -/
theorem join_splitAt (separator : Char) (text : List Char) :
    join separator (splitAt separator text) = text := by
  induction text with
  | nil => rfl
  | cons head tail hypothesis =>
    simp only [splitAt]
    split
    next same =>
      have equal : head = separator := by simpa using same
      cases cut : splitAt separator tail with
      | nil => exact absurd cut (splitAt_ne_nil _ _)
      | cons piece pieces => simp [join, ← cut, hypothesis, equal]
    next =>
      cases cut : splitAt separator tail with
      | nil => exact absurd cut (splitAt_ne_nil _ _)
      | cons piece pieces =>
        rw [cut] at hypothesis
        cases pieces with
        | nil => simpa [join] using hypothesis
        | cons next pieces => simpa [join] using hypothesis

/-- A segment is found exactly if the text can be cut around it. -/
theorem hasSegment_iff {pattern text : List Char} :
    hasSegment pattern text = true ↔ ∃ front back, text = front ++ pattern ++ back := by
  induction text with
  | nil =>
    constructor
    · intro found
      exact ⟨[], [], by simpa [hasSegment] using found⟩
    · rintro ⟨front, back, cut⟩
      simp_all [hasSegment]
  | cons head tail hypothesis =>
    simp only [hasSegment, Bool.or_eq_true, List.isPrefixOf_iff_prefix, hypothesis]
    constructor
    · rintro (⟨back, cut⟩ | ⟨front, back, cut⟩)
      · exact ⟨[], back, by simp [cut]⟩
      · exact ⟨head :: front, back, by simp [cut]⟩
    · rintro ⟨front, back, cut⟩
      cases front with
      | nil => exact .inl ⟨back, by simpa using cut.symm⟩
      | cons first front =>
        simp only [List.cons_append, List.cons.injEq] at cut
        exact .inr ⟨front, back, cut.2⟩

/-- A pattern occurs exactly if the text can be cut around it. -/
theorem contains_iff {text pattern : String} :
    contains text pattern = true ↔
      ∃ front back, text.toList = front ++ pattern.toList ++ back := hasSegment_iff

end SerialCheck.Text

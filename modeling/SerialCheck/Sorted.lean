/-!
# Sorted lists

`sort` arranges a list in the order of its members and keeps each as often as it occurs
(`sort_perm`, `sort_pairwise`); `distinct` also removes repetitions, so two lists with the same
members have the same result.
-/
namespace SerialCheck

variable {α : Type}

/-- A list with one more member, put before the first member that is not below it. -/
def insertSorted (below : α → α → Bool) (member : α) : List α → List α
  | [] => [member]
  | head :: tail =>
    if below head member then head :: insertSorted below member tail else member :: head :: tail

/-- The members of a list in ascending order. -/
def sort (below : α → α → Bool) : List α → List α
  | [] => []
  | head :: tail => insertSorted below head (sort below tail)

/-- Inserting adds exactly the one member. -/
theorem insertSorted_perm (below : α → α → Bool) (member : α) (members : List α) :
    (insertSorted below member members).Perm (member :: members) := by
  induction members with
  | nil => exact .refl _
  | cons head tail hypothesis =>
    simp only [insertSorted]
    split
    · exact (hypothesis.cons head).trans (.swap member head tail)
    · exact .refl _

/-- Sorting keeps every member as often as it occurs. -/
theorem sort_perm (below : α → α → Bool) (members : List α) :
    (sort below members).Perm members := by
  induction members with
  | nil => exact .refl _
  | cons head tail hypothesis =>
    exact (insertSorted_perm below head _).trans (hypothesis.cons head)

section

variable {below : α → α → Bool} (asymmetric : ∀ left right, below left right → ¬below right left)
  (negative : ∀ one two three, ¬below two one → ¬below three two → ¬below three one)

include asymmetric negative

/-- Inserting keeps a list in order. -/
theorem insertSorted_pairwise (member : α) {members : List α}
    (ordered : members.Pairwise fun earlier later => ¬below later earlier) :
    (insertSorted below member members).Pairwise fun earlier later => ¬below later earlier := by
  induction members with
  | nil => exact List.pairwise_singleton _ _
  | cons head tail hypothesis =>
    obtain ⟨first, rest⟩ := List.pairwise_cons.1 ordered
    simp only [insertSorted]
    split
    next under =>
      refine List.pairwise_cons.2 ⟨fun other inside => ?_, hypothesis rest⟩
      rcases List.mem_cons.1 ((insertSorted_perm below member tail).subset inside) with rfl | deeper
      · exact asymmetric _ _ under
      · exact first other deeper
    next above =>
      refine List.pairwise_cons.2 ⟨fun other inside => ?_, ordered⟩
      rcases List.mem_cons.1 inside with rfl | deeper
      · exact above
      · exact negative _ _ _ above (first other deeper)

/-- No member of a sorted list is below an earlier one. -/
theorem sort_pairwise (members : List α) :
    (sort below members).Pairwise fun earlier later => ¬below later earlier := by
  induction members with
  | nil => exact .nil
  | cons head tail hypothesis => exact insertSorted_pairwise asymmetric negative head hypothesis

end

/-! ## Sorting by a comparison that may fail -/

variable {ε : Type}

/-- The place in a sorted list behind the members that a new one is not below, found by halving
the part of the list from `low` to `high`, in at most as many halvings as given. -/
def placeFor (below : α → α → Except ε Bool) (member : α) (sorted : Array α) :
    Nat → Nat → Nat → Except ε Nat
  | 0, low, _ => .ok low
  | halvings + 1, low, high =>
    if high ≤ low then .ok low
    else
      let middle := low + (high - low) / 2
      match sorted[middle]? with
      | none => .ok low
      | some other => do
        if ← below member other then placeFor below member sorted halvings low middle
        else placeFor below member sorted halvings (middle + 1) high

/-- The members put into a sorted list one after the other. -/
def insertAll (below : α → α → Except ε Bool) (sorted : Array α) : List α → Except ε (List α)
  | [] => .ok sorted.toList
  | member :: members => do
    let place ← placeFor below member sorted (sorted.size + 1) 0 sorted.size
    insertAll below (sorted.toList.take place ++ member :: sorted.toList.drop place).toArray members

/-- The members at the front that are all below their predecessors, or that all are not, and the
members behind them. -/
def takeRun (below : α → α → Except ε Bool) (falling : Bool) (last : α) :
    List α → Except ε (List α × List α)
  | [] => .ok ([], [])
  | member :: members => do
    if (← below member last) == falling then
      let (run, rest) ← takeRun below falling member members
      return (member :: run, rest)
    else return ([], member :: members)

/-- The members of a list in ascending order, or the failure of the first comparison that has
none. A list that begins with a rising or falling run is not compared again along the run. -/
def sortChecked (below : α → α → Except ε Bool) : List α → Except ε (List α)
  | first :: second :: members => do
    let falling ← below second first
    let (run, rest) ← takeRun below falling second members
    let run := first :: second :: run
    insertAll below (if falling then run.reverse else run).toArray rest
  | members => .ok members

/-! ## Texts -/

/-- The order of texts by code points. -/
def textBelow (left right : String) : Bool := left < right

/-- Texts in ascending order. -/
def sortTexts (texts : List String) : List String := sort textBelow texts

/-- A list of ascending texts with one more, unless it is there already. -/
def insertDistinct (text : String) : List String → List String
  | [] => [text]
  | head :: tail =>
    if text < head then text :: head :: tail
    else if head = text then head :: tail
    else head :: insertDistinct text tail

/-- The different texts of a list in ascending order. -/
def distinct (texts : List String) : List String := texts.foldr insertDistinct []

end SerialCheck

import SerialCheck.Proofs.Task
import Mathlib.Data.List.Nodup
import SerialCheck.Run.Serial

/-!
# Numbered batches

Transactions that are known by whole numbers, whose statements carry that number and their
places. In a batch of such transactions with different numbers everything that is looked up is
found under exactly one transaction, and a statement is alike to no other statement. A batch is plain
if its statements and the errors that they expect are texts.
-/
namespace SerialCheck

namespace Value

/-- The value is a whole number. -/
def IsWhole (value : Value) : Prop := ∃ number : Int, value = .integer number

/-- Whole numbers are alike exactly if they are the same. -/
theorem IsWhole.alike_iff {left right : Value} (first : left.IsWhole) (second : right.IsWhole) :
    left.alike right = true ↔ left = right := by
  obtain ⟨left, rfl⟩ := first
  obtain ⟨right, rfl⟩ := second
  simp [alike_integer]

/-- Whole numbers that are not the same are not alike. -/
theorem IsWhole.not_alike {left right : Value} (first : left.IsWhole) (second : right.IsWhole)
    (apart : left ≠ right) : left.alike right = false := by
  rw [Bool.eq_false_iff]
  exact fun same => apart ((first.alike_iff second).1 same)

/-- Whole numbers are compared as such. -/
theorem isAtLeast_integer (left right : Int) :
    (Value.integer left).isAtLeast (.integer right) = .ok (decide (right ≤ left)) := by
  simp [isAtLeast, compare, compareNumbers, number?, Number.isMuddled, Number.isDecimal,
    Relation.holds, Number.le, Number.quantity?, Quantity.le, Rat.intCast_le_intCast]

theorem isBelow_integer (left right : Int) :
    (Value.integer left).isBelow (.integer right) = .ok (decide (left < right)) := by
  simp [isBelow, compare, compareNumbers, number?, Number.isMuddled, Number.isDecimal,
    Relation.holds, Number.lt, Number.quantity?, Quantity.lt, Rat.intCast_lt_intCast]

/-- A whole number is fit for a name. -/
theorem IsWhole.unfit? {value : Value} (whole : value.IsWhole) : value.unfit? = none := by
  obtain ⟨number, rfl⟩ := whole
  rfl

variable {α : Type}

/-- What is found is an item of the list. -/
theorem exists_mem_of_lookup {key : Value} {item : α} {entries : List (Value × α)}
    (found : lookup key entries = some item) : ∃ entry ∈ entries, entry.2 = item := by
  induction entries with
  | nil => cases found
  | cons entry rest hypothesis =>
    rw [lookup] at found
    split at found
    · exact ⟨entry, List.mem_cons_self, Option.some.inj found⟩
    · obtain ⟨other, inside, same⟩ := hypothesis found
      exact ⟨other, List.mem_cons_of_mem _ inside, same⟩

/-- What is found stands under the number that is looked for. -/
theorem mem_of_lookup {key : Value} {item : α} {entries : List (Value × α)}
    (whole : key.IsWhole) (keys : ∀ entry ∈ entries, entry.1.IsWhole)
    (found : lookup key entries = some item) : (key, item) ∈ entries := by
  induction entries with
  | nil => cases found
  | cons entry rest hypothesis =>
    obtain ⟨other, held⟩ := entry
    rw [lookup] at found
    split at found
    next same =>
      cases found
      have equal : other = key := ((keys _ List.mem_cons_self).alike_iff whole).1 same
      rw [equal]
      exact List.mem_cons_self
    next =>
      exact List.mem_cons_of_mem _
        (hypothesis (fun entry member => keys entry (List.mem_cons_of_mem _ member)) found)

/-- An entry at the end of a list does not hide what the list has. -/
theorem lookup_append {key : Value} {entries others : List (Value × α)} :
    lookup key (entries ++ others) = (lookup key entries).or (lookup key others) := by
  induction entries with
  | nil => rfl
  | cons entry rest hypothesis =>
    obtain ⟨other, item⟩ := entry
    simp only [List.cons_append, lookup]
    split
    · rfl
    · exact hypothesis

end Value

/-- The transaction is known by a whole number, and its statements carry that number and their
places. -/
structure Transaction.Numbered (transaction : Transaction) : Prop where
  /-- It is known by a whole number. -/
  id : transaction.id.IsWhole
  /-- Its statements carry that number and their places. -/
  statements : ∀ (place : Nat) (statement : Statement),
    transaction.statements[place]? = some statement →
      statement.transaction = transaction.id ∧ statement.index = .integer place

namespace Transaction.Numbered

/-- A transaction is numbered if the list of what its statements carry is the list of places under
its number. -/
theorem of_list {transaction : Transaction} (whole : transaction.id.IsWhole)
    (carried : transaction.statements.map (fun statement => (statement.transaction, statement.index)) =
      (List.range transaction.size).map fun place : Nat => (transaction.id, .integer place)) :
    transaction.Numbered where
  id := whole
  statements := by
    intro place statement found
    have within : place < transaction.size := (List.getElem?_eq_some_iff.1 found).1
    have both := congrArg (·[place]?) carried
    simp only [List.getElem?_map, found, List.getElem?_range within, Option.map_some,
      Option.some.injEq, Prod.mk.injEq] at both
    exact both

/-- The statements of a transaction carry its number. -/
theorem transaction_eq {transaction : Transaction} (numbered : transaction.Numbered)
    {statement : Statement} (member : statement ∈ transaction.statements) :
    statement.transaction = transaction.id := by
  obtain ⟨place, found⟩ := List.mem_iff_getElem?.1 member
  exact (numbered.statements place statement found).1

/-- The places of the statements are whole numbers. -/
theorem index_isWhole {transaction : Transaction} (numbered : transaction.Numbered)
    {statement : Statement} (member : statement ∈ transaction.statements) :
    statement.index.IsWhole := by
  obtain ⟨place, found⟩ := List.mem_iff_getElem?.1 member
  exact ⟨place, (numbered.statements place statement found).2⟩

/-- Statements with one place are the same. -/
theorem eq_of_index {transaction : Transaction} (numbered : transaction.Numbered)
    {left right : Statement} (first : left ∈ transaction.statements)
    (second : right ∈ transaction.statements) (same : left.index = right.index) :
    left = right := by
  obtain ⟨place, found⟩ := List.mem_iff_getElem?.1 first
  obtain ⟨other, met⟩ := List.mem_iff_getElem?.1 second
  have places : (Value.integer place) = .integer other := by
    rw [← (numbered.statements place left found).2, ← (numbered.statements other right met).2, same]
  have equal : place = other := Int.ofNat_inj.1 (Value.integer.inj places)
  subst equal
  exact Option.some.inj (found.symm.trans met)

/-- The place of a statement is the number of those in front of it. -/
theorem index_of_split {transaction : Transaction} (numbered : transaction.Numbered)
    {front back : List Statement} {statement : Statement}
    (all : transaction.statements = front ++ statement :: back) :
    statement.index = .integer front.length :=
  (numbered.statements front.length statement (by rw [all]; simp)).2

/-- A statement stands at one place of its transaction only. -/
theorem before_unique {transaction : Transaction} (numbered : transaction.Numbered)
    {statement : Statement}
    {before after earlier later : List Statement}
    (one : transaction.statements = before ++ statement :: after)
    (two : transaction.statements = earlier ++ statement :: later) : before = earlier := by
  have lengths : before.length = earlier.length := by
    have same := (numbered.index_of_split one).symm.trans (numbered.index_of_split two)
    injection same with same
    exact Int.ofNat_inj.1 same
  exact (List.append_inj (one.symm.trans two) lengths).1

end Transaction.Numbered

/-- The statements of a transaction are as many as its size. -/
theorem Transaction.length_statements (transaction : Transaction) :
    transaction.statements.length = transaction.size := rfl

/-- A transaction has at least an opening and a closing statement. -/
theorem Transaction.two_le_size (transaction : Transaction) : 2 ≤ transaction.size := by
  simp [size, statements]

namespace Batch

/-- The statements of the batch are texts, and texts are expected in their errors. -/
def Plain (batch : Batch) : Prop :=
  ∀ transaction ∈ batch, ∀ statement ∈ transaction.statements,
    (∃ text, statement.text = .text text) ∧ statement.strays = []

/-- The transactions are numbered, each by a number of its own. -/
structure Numbered (batch : Batch) : Prop where
  /-- Each transaction is numbered. -/
  each : ∀ transaction ∈ batch, transaction.toTransaction.Numbered
  /-- No two of them have one number. -/
  distinct : batch.ids.Nodup

namespace Numbered

variable {batch : Batch}

/-- Transactions of the batch with one number are the same. -/
theorem eq_of_id (numbered : batch.Numbered) {left right : OpenTransaction}
    (first : left ∈ batch) (second : right ∈ batch) (same : left.id = right.id) :
    left = right := List.inj_on_of_nodup_map numbered.distinct first second same

/-- Transactions of the batch with the same numbers in order are the same. -/
theorem eq_of_ids (numbered : batch.Numbered) {lefts rights : List OpenTransaction}
    (first : ∀ left ∈ lefts, left ∈ batch) (second : ∀ right ∈ rights, right ∈ batch)
    (same : lefts.map (·.id) = rights.map (·.id)) : lefts = rights := by
  induction lefts generalizing rights with
  | nil => exact (List.map_eq_nil_iff.1 same.symm).symm
  | cons left lefts hypothesis =>
    obtain ⟨right, rest, rfl, head, tail⟩ := List.map_eq_cons_iff.1 same.symm
    rw [numbered.eq_of_id (second right List.mem_cons_self) (first left List.mem_cons_self) head,
      hypothesis (fun other inside => first other (List.mem_cons_of_mem _ inside))
        (fun other inside => second other (List.mem_cons_of_mem _ inside)) tail.symm]

/-- The transactions of the batch are looked up by their numbers. -/
theorem id_isWhole (numbered : batch.Numbered) {transaction : OpenTransaction}
    (member : transaction ∈ batch) : transaction.id.IsWhole := (numbered.each _ member).id

/-- What they are known by are whole numbers. -/
theorem isWhole_of_mem_ids (numbered : batch.Numbered) {id : Value} (known : id ∈ batch.ids) :
    id.IsWhole := by
  obtain ⟨transaction, member, rfl⟩ := List.mem_map.1 known
  exact numbered.id_isWhole member

/-- A number of the batch is alike to the number of a transaction only if it is that number. -/
theorem alike_iff (numbered : batch.Numbered) {left right : OpenTransaction}
    (first : left ∈ batch) (second : right ∈ batch) :
    left.id.alike right.id = true ↔ left = right :=
  ((numbered.id_isWhole first).alike_iff (numbered.id_isWhole second)).trans
    ⟨numbered.eq_of_id first second, fun same => same ▸ rfl⟩

/-- In an order of the batch no other transaction has the number of one. -/
theorem not_alike_of_split (numbered : batch.Numbered) {front back : List OpenTransaction}
    {transaction : OpenTransaction} (permuted : (front ++ transaction :: back).Perm batch) :
    ∀ other ∈ front ++ back, other.id.alike transaction.id = false := by
  have ids : (front ++ transaction :: back).Nodup :=
    permuted.nodup_iff.2 (List.Nodup.of_map _ numbered.distinct)
  have apart : transaction ∉ front ++ back :=
    (List.nodup_cons.1 (List.perm_middle.nodup_iff.1 ids)).1
  have member : transaction ∈ batch :=
    permuted.subset (List.mem_append_right _ List.mem_cons_self)
  intro other inside
  have known : other ∈ batch :=
    permuted.subset (((List.sublist_cons_self transaction back).append_left front).subset inside)
  rw [Bool.eq_false_iff]
  intro alike
  exact apart ((numbered.alike_iff known member).1 alike ▸ inside)

/-- A transaction of the batch is found under its number. -/
theorem find?_eq (numbered : batch.Numbered) {transaction : OpenTransaction}
    (member : transaction ∈ batch) : batch.find? transaction.id = some transaction := by
  have met : ∃ other ∈ batch.reverse, other.id.alike transaction.id = true :=
    ⟨transaction, List.mem_reverse.2 member, Value.alike_refl _⟩
  obtain ⟨other, found⟩ := Option.isSome_iff_exists.1 (List.find?_isSome.2 met)
  have known : other ∈ batch := List.mem_reverse.1 (List.mem_of_find?_eq_some found)
  have alike : other.id.alike transaction.id = true := by
    simpa using List.find?_some found
  rw [Batch.find?, found, (numbered.alike_iff known member).1 alike]

/-- Looking up a transaction of the batch by its number returns that transaction. -/
theorem member_returns (numbered : batch.Numbered) {transaction result : OpenTransaction}
    (member : transaction ∈ batch) {bench after : Bench} :
    (Run.member batch transaction.id).Returns bench result after ↔
      result = transaction ∧ after = bench := by
  simp only [Run.member, (numbered.id_isWhole member).unfit?, numbered.find?_eq member,
    Task.returns_pure]

/-- Alike statements of the batch are the same, and so are their transactions. -/
theorem eq_of_alike (numbered : batch.Numbered) {left right : OpenTransaction}
    (first : left ∈ batch) (second : right ∈ batch) {statement other : Statement}
    (mine : statement ∈ left.statements) (yours : other ∈ right.statements)
    (same : statement.alike other = true) : left = right ∧ statement = other := by
  simp only [Statement.alike, Bool.and_eq_true] at same
  have ids := numbered.each _ first
  have others := numbered.each _ second
  have owner : left = right := by
    refine (numbered.alike_iff first second).1 ?_
    rw [← ids.transaction_eq mine, ← others.transaction_eq yours]
    exact same.1.1.1.1.1
  subst owner
  refine ⟨rfl, ids.eq_of_index mine yours ?_⟩
  exact ((ids.index_isWhole mine).alike_iff (ids.index_isWhole yours)).1 same.1.1.1.1.2

/-- No statement makes a numbered batch unfit to be looked up. -/
theorem unfit?_eq_none (numbered : batch.Numbered) : batch.unfit? = none := by
  have fit : ∀ values : List Value, (∀ value ∈ values, value.IsWhole) →
      Value.unfitMember? values = none := by
    intro values whole
    induction values with
    | nil => rfl
    | cons value rest hypothesis =>
      rw [Value.unfitMember?, (whole value List.mem_cons_self).unfit?, Option.none_or]
      exact hypothesis fun value member => whole value (List.mem_cons_of_mem _ member)
  refine fit batch.ids fun value member => ?_
  obtain ⟨transaction, known, rfl⟩ := List.mem_map.1 member
  exact numbered.id_isWhole known

end Numbered

end Batch

end SerialCheck

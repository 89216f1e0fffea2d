import SerialCheck.Proofs.Sessions.Drafts

/-!
# Choices that never fail

A choice fails only where there is nothing to choose from. So the statements that open and end a transaction
are always drawn, and so are the definition of a table and an insertion into a table with columns
(`TableGenerator.sure_draw`, `DataStatement.sure_drawInsert`).
-/
namespace SerialCheck

namespace Attempt

variable {α β : Type}

/-- The choice does not fail. -/
def Sure (choice : Attempt α) : Prop :=
  ∀ randomness, ∃ value, (choice.run randomness).1 = .ok value

theorem sure_pure (value : α) : Sure (pure value) := fun _ => ⟨value, rfl⟩

theorem sure_draw (choice : Draw α) : Sure (liftM choice) := fun _ => ⟨_, rfl⟩

/-- A sequence does not fail if its parts do not, the second one after what the first one gives. -/
theorem Sure.bind {choice : Attempt α} {next : α → Attempt β} {good : α → Prop} (sure : Sure choice)
    (gives : choice.Gives good) (second : ∀ value, good value → Sure (next value)) :
    Sure (choice >>= next) := by
  intro randomness
  obtain ⟨value, gave⟩ := sure randomness
  have met := gives randomness value gave
  change ∃ result, ((ExceptT.bind choice next).run randomness).1 = .ok result
  simp only [ExceptT.bind, ExceptT.run, ExceptT.mk, Bind.bind, StateT.bind] at gave ⊢
  generalize choice randomness = outcome at gave
  obtain ⟨outcome, later⟩ := outcome
  cases gave
  exact second value met later

/-- What follows does not fail whatever the first part gives. -/
theorem Sure.then {choice : Attempt α} {next : α → Attempt β} (sure : Sure choice)
    (second : ∀ value, Sure (next value)) : Sure (choice >>= next) :=
  sure.bind (gives_any choice) fun value _ => second value

theorem sure_ite {test : Prop} [Decidable test] {one other : Attempt α} (first : Sure one)
    (second : Sure other) : Sure (if test then one else other) := by
  split
  · exact first
  · exact second

/-- A member of a list is chosen if there is one. -/
theorem sure_member {members : List α} (some_there : members ≠ []) : Sure (member members) := by
  cases members with
  | nil => exact absurd rfl some_there
  | cons first others => exact sure_draw _

/-- So is a subset. -/
theorem sure_subset {members : List α} (some_there : members ≠ []) : Sure (subset members) := by
  rw [subset, if_neg (by simpa using some_there)]
  exact (sure_draw _).then fun _ => sure_draw _

/-- The truth of a probability is chosen if that is a number. -/
theorem sure_chance {probability : Value}
    (number : (∃ number, probability = .real number) ∨ probability.IsWhole) : Sure (chance probability) := by
  refine (sure_draw _).then fun numerator => ?_
  rcases number with ⟨number, rfl⟩ | ⟨number, rfl⟩
  · exact sure_pure _
  · exact sure_pure _

/-- A choice gives what its draws give for every randomness. -/
theorem gives_of_draw {choice : Draw α} {good : α → Prop} (drawn : ∀ randomness, good (choice randomness).1) :
    Gives (liftM choice) good := by
  intro randomness value given
  obtain ⟨earlier, rfl⟩ := gives_draw choice randomness value given
  exact drawn earlier

end Attempt

open Attempt

/-! ## Control statements -/

/-- The opening statement is drawn at every isolation level that is a text. -/
theorem sure_drawOpening (level : String) : Sure (drawOpening (.text level)) :=
  (sure_draw _).then fun _ => sure_ite (sure_pure _) (sure_pure _)

/-! ## Predicates -/

variable {columns : List Column}

/-- A predicate is drawn over a table with columns. -/
theorem Predicate.sure_draw (some_there : columns ≠ []) (depth : Nat) :
    Sure (Predicate.draw columns depth) := by
  have simple : Sure (Predicate.drawSimple columns) := by
    refine (sure_member some_there).then fun column => (Attempt.sure_draw _).then fun null => ?_
    exact sure_ite ((Attempt.sure_draw _).then fun _ => sure_pure _)
      ((Attempt.sure_draw _).then fun _ => (Attempt.sure_draw _).then fun _ => sure_pure _)
  induction depth with
  | zero => exact simple
  | succ depth hypothesis =>
    refine (Attempt.sure_draw _).then fun joined => sure_ite ?_ simple
    refine hypothesis.then fun left => hypothesis.then fun right => ?_
    exact (Attempt.sure_draw _).then fun _ => sure_pure _

/-! ## Insertions -/

namespace DataStatement

/-- An insertion is drawn for a table with columns whose names are texts. -/
theorem sure_drawInsert {table : Table} (some_there : table.columns ≠ [])
    (named : ∀ column ∈ table.columns, column.entry = none) : Sure (drawInsert table) := by
  refine (sure_subset some_there).bind (gives_subset _) fun columns inside => ?_
  refine (sure_draw _).then fun count => (sure_draw _).then fun rows => ?_
  rw [columnNames_named fun column member => named column (inside member)]
  exact (sure_pure _).then fun _ => sure_pure _

end DataStatement

/-! ## Tables -/

namespace TableDefinition

/-- Columns of random types are drawn. -/
theorem sure_drawColumns (count number : Nat) : Sure (drawColumns count number) := by
  induction count generalizing number with
  | zero => exact sure_pure _
  | succ count hypothesis =>
    exact (sure_member (by decide)).then fun _ => (hypothesis _).then fun _ => sure_pure _

/-- There are as many as asked for. -/
theorem gives_drawColumns (count number : Nat) :
    (drawColumns count number).Gives fun columns => columns.length = count := by
  induction count generalizing number with
  | zero => exact gives_pure rfl
  | succ count hypothesis =>
    refine (gives_any _).bind fun dataType _ => (hypothesis (number + 1)).bind fun columns many => ?_
    exact gives_pure (congrArg Nat.succ many)

theorem sure_drawClause (keyAllowed : Bool) (column : Column) : Sure (drawClause keyAllowed column) := by
  have checked : Sure (drawCheck column) := by
    refine (sure_draw _).then fun given => sure_ite ?_ (sure_pure _)
    exact (Predicate.sure_draw (List.cons_ne_nil _ _) _).then fun _ => sure_pure _
  refine checked.then fun _ => (sure_draw _).then fun _ => (sure_draw _).then fun _ => ?_
  exact (sure_draw _).then fun _ => (sure_draw _).then fun _ => sure_pure _

theorem sure_drawClauses (keyAllowed : Bool) (columns : List Column) :
    Sure (drawClauses keyAllowed columns) := by
  induction columns generalizing keyAllowed with
  | nil => exact sure_pure _
  | cons column columns hypothesis =>
    exact (sure_drawClause keyAllowed column).then fun _ => (hypothesis _).then fun _ => sure_pure _

/-- A primary key is drawn if there are columns. -/
theorem sure_drawKey (some_there : columns ≠ []) (apart : Bool) : Sure (drawKey columns apart) := by
  cases apart with
  | true => exact (sure_subset some_there).then fun _ => sure_pure _
  | false => exact sure_pure _

end TableDefinition

namespace TableGenerator

open TableDefinition

/-- A table with columns of its own is drawn. -/
theorem sure_drawNew (generator : TableGenerator) (name : String) : Sure (generator.drawNew name) := by
  have counted : Gives (liftM (Draw.oneOf 1 [2, 3] : Draw Nat)) fun count => count ≠ 0 := by
    refine gives_of_draw fun randomness none => ?_
    have listed := Draw.oneOf_mem 1 [2, 3] randomness
    rw [none] at listed
    revert listed
    decide
  refine (sure_draw _).bind counted fun count some_asked => (sure_draw _).then fun keyAllowed => ?_
  refine (sure_draw _).then fun apart => ?_
  refine (sure_drawColumns _ _).bind (gives_drawColumns _ _) fun columns many => ?_
  have some_there : columns ≠ [] := by
    rintro rfl
    exact some_asked many.symm
  refine (sure_drawClauses _ _).then fun clauses => (sure_drawKey some_there _).then fun _ => ?_
  exact sure_pure _

/-- A definition of a table is drawn if the names of the known tables are texts. -/
theorem sure_draw (generator : TableGenerator) {schema : Schema} (named : schema.Named) :
    Sure (generator.draw schema) := by
  have chosen : Gives (liftM (drawChoice (!schema.tables.isEmpty))) fun copies =>
      copies = true → schema.tables ≠ [] := by
    refine gives_of_draw fun randomness copies none => ?_
    rw [none] at copies
    cases copies
  refine (Attempt.sure_draw _).bind chosen fun copies some_there => ?_
  split
  next copies =>
    have known : schema.tables.isEmpty = false := by simpa using some_there copies
    refine Sure.then ?_ fun _ => sure_pure _
    rw [Schema.randomTable, known, if_neg Bool.false_ne_true, named.disorder?]
    refine sure_member fun none => some_there copies ?_
    have same := (sort_perm Table.isBelow schema.tables).length_eq
    rw [show sort Table.isBelow schema.tables = [] from none] at same
    exact List.length_eq_zero_iff.1 same.symm
  next => exact generator.sure_drawNew _

end TableGenerator

end SerialCheck

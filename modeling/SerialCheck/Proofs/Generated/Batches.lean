import SerialCheck.Check
import SerialCheck.Proofs.Generated.Transactions
import SerialCheck.Proofs.Plan

/-!
# Generated batches

The transactions of a batch are generated one after the other and numbered in that order, so that no two of
them have one number (`Check.generateEach_returns`). Their generation changes nothing else that was planned
on the bench.
-/
namespace SerialCheck

/-- A batch of generated transactions with different numbers. -/
structure Batch.Generated (batch : Batch) : Prop where
  /-- The transactions are generated. -/
  each : ∀ transaction ∈ batch, transaction.Generated
  /-- No two of them have one number. -/
  distinct : batch.ids.Nodup

/-- A batch of transactions with different numbers that are generated over the tables of a schema. -/
structure Batch.GeneratedOver (schema : Schema) (batch : Batch) : Prop where
  /-- The transactions are generated. -/
  each : ∀ transaction ∈ batch, transaction.GeneratedOver schema
  /-- No two of them have one number. -/
  distinct : batch.ids.Nodup

/-- It is a generated batch. -/
theorem Batch.GeneratedOver.generated {schema : Schema} {batch : Batch}
    (generated : batch.GeneratedOver schema) : batch.Generated :=
  ⟨fun transaction member => (generated.each transaction member).generated, generated.distinct⟩

/-- A generated batch is numbered. -/
theorem Batch.Generated.numbered {batch : Batch} (generated : batch.Generated) : batch.Numbered :=
  ⟨fun transaction member => (generated.each transaction member).numbered_spoken.1,
    generated.distinct⟩

/-- A task is caught on the bench that it leaves, whichever way it ends. -/
theorem Task.returns_caught {α : Type} {task : Task α} {bench after : Bench}
    {outcome : Except Fault α} :
    (caught task).Returns bench outcome after ↔ task bench = (outcome, after) := by
  show (Except.ok (task bench).1, (task bench).2) = (Except.ok outcome, after) ↔ _
  generalize task bench = ended
  constructor
  · intro same
    cases same
    rfl
  · rintro rfl
    rfl

/-- What is cleaned up behind a task leaves its result. -/
theorem Task.returns_withCleanup {α : Type} {task : Task α} {cleanup : Task Unit}
    {bench after : Bench} {result : α} :
    (withCleanup task cleanup).Returns bench result after ↔
      ∃ between, task.Returns bench result between ∧ cleanup.Returns between () after := by
  simp only [withCleanup, returns_bind, returns_caught, returns_release]
  constructor
  · rintro ⟨_, between, ended, _, _, cleaned, rfl, rfl⟩
    exact ⟨between, ended, cleaned⟩
  · rintro ⟨between, ended, cleaned⟩
    exact ⟨_, between, ended, (), after, cleaned, rfl, rfl⟩

open SerialCheck.Task

namespace Generation

/-- A condition that outlasts the drafting of statements: it depends neither on the choices nor on how far a
script has come. -/
structure Drafting (holds : Bench → Prop) : Prop where
  /-- The choices do not matter. -/
  drawn : ∀ {bench : Bench} (randomness : Randomness), holds bench → holds { bench with randomness }
  /-- Nor does the script. -/
  scripted : ∀ {bench : Bench} (synthesizer : Synthesizer), holds bench →
    holds { bench with synthesizer }

/-- The plan is such a condition. -/
theorem drafting_plan (plan : Settings × List Query × Nat) : Drafting (·.plan = plan) :=
  ⟨fun _ same => same, fun _ same => same⟩

namespace Drafting

variable {α : Type} {holds : Bench → Prop} (drafting : Drafting holds)

include drafting

theorem attempt (choice : Attempt α) : Upholds holds (attempt choice) := by
  have drawn : Upholds holds (draw choice.run) := fun _ held => drafting.drawn _ held
  refine drawn.bind fun outcome => ?_
  split
  · exact upholds_pure _
  · exact upholds_throw _

theorem statement (kind : StatementKind) : Upholds holds (Synthesizer.statement kind) := by
  refine upholds_get_bind fun bench held => ?_
  split
  · exact drafting.attempt _
  · split
    · exact upholds_pure _
    · split
      exact (upholds_set (drafting.scripted _ held)).bind fun _ => upholds_release _

theorem tryData : Upholds holds tryData := by
  refine upholds_get_bind fun bench _ => (drafting.attempt _).bind fun kind => ?_
  refine (drafting.statement kind.val).caught.bind fun outcome => ?_
  split
  · exact upholds_pure _
  · exact upholds_pure _
  · exact upholds_throw _

theorem dataStatement (attempts : Value) (further : Nat) :
    Upholds holds (dataStatement attempts further) := by
  induction further with
  | zero =>
    refine drafting.tryData.bind fun drawn => ?_
    split
    · exact upholds_pure _
    · exact upholds_throw _
  | succ further hypothesis =>
    refine drafting.tryData.bind fun drawn => ?_
    split
    · exact upholds_pure _
    · exact hypothesis

theorem dataStatements (id : Int) (count index : Nat) :
    Upholds holds (dataStatements id count index) := by
  induction count generalizing index with
  | zero => exact upholds_pure _
  | succ count hypothesis =>
    refine upholds_get_bind fun bench _ => (upholds_use _).bind fun allowed => ?_
    refine (drafting.dataStatement _ _).bind fun drawn => ?_
    exact (hypothesis (index + 1)).bind fun rest => upholds_pure _

omit drafting in
theorem openingOf (id : Int) (query : Query) : Upholds holds (openingOf id query) := by
  refine upholds_get_bind fun bench _ => ?_
  split
  · exact upholds_pure _
  · split
    · exact upholds_throw_bind _ _
    · exact upholds_pure _

/-- Drafting the statements of a transaction upholds the condition, whichever way it ends. -/
theorem statements (id : Int) (size : Value) : Upholds holds (statements id size) := by
  have closing : Upholds holds drawClosing :=
    upholds_get_bind fun bench _ => (drafting.attempt _).bind fun rollback => upholds_pure _
  refine (drafting.statement _).bind fun query => (openingOf id query).bind fun opening => ?_
  refine (upholds_use _).bind fun count => (drafting.dataStatements id _ 1).bind fun data => ?_
  exact closing.bind fun kind => (drafting.statement _).bind fun query => upholds_pure _

theorem drawSize : Upholds holds drawSize :=
  upholds_get_bind fun _ _ => (upholds_use _).bind fun _ => drafting.attempt _

end Drafting

/-- The statements of a transaction are known by its number. -/
theorem statements_id {id : Int} {given : Value} {transaction : Transaction} {bench after : Bench}
    (returned : (statements id given).Returns bench transaction after) :
    transaction.id = .integer id := by
  simp only [statements, returns_bind, returns_pure] at returned
  obtain ⟨_, _, _, _, _, _, _, _, _, _, _, _, _, _, _, _, _, _, rfl, _⟩ := returned
  rfl

/-- A transaction gets the next number. -/
theorem transaction_returns {transaction : OpenTransaction} {bench after : Bench}
    (returned : Generation.transaction.Returns bench transaction after) :
    transaction.id = .integer bench.nextTransaction ∧
      after.plan = (bench.settings, bench.setupLog, bench.nextTransaction + 1) := by
  simp only [Generation.transaction, nextId, returns_bind, returns_get, returns_modify,
    returns_pure, returns_caught] at returned
  obtain ⟨size, first, drawn, id, _, ⟨first, first, ⟨rfl, rfl⟩, _, _, rfl, rfl, rfl⟩, outcome, third,
    opened, rest⟩ := returned
  have begun : first.plan = bench.plan :=
    Keeps.of_returns (fun plan => (drafting_plan plan).drawSize) drawn
  have still := Bench.keeps_openSession (bench.settings, bench.setupLog, bench.nextTransaction + 1) { first with nextTransaction := first.nextTransaction + 1 } (by
    simp only [Bench.plan, Prod.mk.injEq] at begun ⊢
    simp [begun])
  rw [opened] at still
  cases outcome with
  | error fault => exact (returns_throw.1 rest).elim
  | ok session =>
    simp only [returns_bind, returns_caught] at rest
    obtain ⟨outcome, fourth, made, rest⟩ := rest
    have kept := (drafting_plan _).statements first.nextTransaction size third still
    rw [made] at kept
    cases outcome with
    | error fault =>
      simp only at rest
      split at rest <;> simp only [returns_bind, returns_throw, and_false, exists_false] at rest
    | ok statements =>
      simp only [returns_bind, returns_log, returns_pure] at rest
      obtain ⟨_, _, rfl, rfl, rfl⟩ := rest
      refine ⟨?_, kept⟩
      have number : first.nextTransaction = bench.nextTransaction :=
        congrArg (fun plan => plan.2.2) begun
      exact number ▸ statements_id made

end Generation

/-- Transactions that are generated one after the other make a batch: they follow the given ones and have
the next numbers. -/
theorem Check.generateEach_returns {count : Nat} {given batch rest : Batch} {bench after : Bench}
    (grammar : bench.synthesizer = .grammar)
    (returned : (generateEach count given).Returns bench (.ok batch, rest) after) :
    rest = batch ∧ after.settings = bench.settings ∧ ∃ made : Batch, batch = given ++ made ∧
      made.length = count ∧ (∀ transaction ∈ made, transaction.Generated) ∧
        made.ids = (List.range' bench.nextTransaction count).map fun id : Nat => .integer id := by
  induction count generalizing given bench with
  | zero =>
    obtain ⟨both, rfl⟩ := returns_pure.1 returned
    cases both
    exact ⟨rfl, rfl, [], by simp, rfl, by simp, rfl⟩
  | succ count hypothesis =>
    simp only [generateEach, returns_bind, returns_caught] at returned
    obtain ⟨outcome, middle, generated, further⟩ := returned
    cases outcome with
    | error fault =>
      obtain ⟨both, _⟩ := returns_pure.1 further
      cases both
    | ok transaction =>
      obtain ⟨named, plan⟩ := Generation.transaction_returns generated
      simp only [Bench.plan, Prod.mk.injEq] at plan
      obtain ⟨settings, _, next⟩ := plan
      have still : middle.synthesizer = .grammar := by
        have kept := (Generation.gives_transaction bench grammar).1
        rwa [generated] at kept
      obtain ⟨same, later, made, all, length, each, ids⟩ := hypothesis still further
      refine ⟨same, later.trans settings, transaction :: made, ?_, by rw [List.length_cons, length],
        List.forall_mem_cons.2 ⟨⟨bench, middle, grammar, generated⟩, each⟩, ?_⟩
      · rw [all, List.append_assoc, List.singleton_append]
      · rw [next] at ids
        rw [List.range'_succ, List.map_cons, ← named, ← ids]
        rfl

/-- Generated transactions make a generated batch. -/
theorem Check.generateEach_generated {count : Nat} {batch rest : Batch} {bench after : Bench}
    (grammar : bench.synthesizer = .grammar)
    (returned : (generateEach count []).Returns bench (.ok batch, rest) after) :
    rest = batch ∧ after.settings = bench.settings ∧ batch.length = count ∧ batch.Generated := by
  obtain ⟨same, settings, made, all, length, each, ids⟩ := generateEach_returns grammar returned
  rw [List.nil_append] at all
  subst all
  refine ⟨same, settings, length, each, ?_⟩
  rw [ids]
  refine List.Nodup.map (fun one other equal => ?_) List.nodup_range'
  exact Int.ofNat_inj.1 (Value.integer.inj equal)

end SerialCheck

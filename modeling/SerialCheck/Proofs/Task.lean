import SerialCheck.Bench

/-!
# What tasks return

`Task.Returns` says that a task, begun on one bench, ends without a fault, with which result and
on which bench. Each way of building a task has one equivalence here, so that a run that
returned can be taken apart step by step, and put together in the same way. `Task.Maintains` says that
what holds of the bench before a task holds of the one on which it returns, and `Task.Upholds` that it holds
of the one which the task leaves, whichever way it ends.
-/
namespace SerialCheck

/-- One of the given values is one of them. -/
theorem Draw.oneOf_mem {α : Type} (first : α) (others : List α) (randomness : Randomness) :
    (Draw.oneOf first others randomness).1 ∈ first :: others := by
  show (first :: others).getD (Draw.below (others.length + 1) randomness).1 first ∈ first :: others
  generalize (Draw.below (others.length + 1) randomness).1 = position
  rw [List.getD_eq_getElem?_getD]
  cases found : (first :: others)[position]? with
  | none => exact List.mem_cons_self
  | some member => exact List.mem_of_getElem? found

namespace Task

variable {α β : Type}

/-- Begun on the first bench, the task ends with the result and leaves the second bench. -/
def Returns (task : Task α) (bench : Bench) (result : α) (after : Bench) : Prop :=
  task bench = (.ok result, after)

/-- A task returns at most one result. -/
theorem Returns.unique {task : Task α} {bench after later : Bench} {result other : α}
    (first : task.Returns bench result after) (second : task.Returns bench other later) :
    result = other ∧ after = later := by
  have same : (Except.ok result, after) = (Except.ok other, later) := first.symm.trans second
  cases same
  exact ⟨rfl, rfl⟩

/-- A task of whose result something can be seen returns it. -/
theorem returns_of_map {task : Task α} {bench : Bench} {view : α → β} {seen : β}
    (shown : (task bench).1.toOption.map view = some seen) :
    ∃ result after, task.Returns bench result after ∧ view result = seen := by
  unfold Returns
  generalize task bench = outcome at shown ⊢
  obtain ⟨outcome, after⟩ := outcome
  cases outcome with
  | ok result => exact ⟨result, after, rfl, Option.some.inj shown⟩
  | error fault => cases shown

/-- A sequence goes on with the result of its first part unless that ends in a fault. -/
theorem bind_apply (task : Task α) (next : α → Task β) (bench : Bench) :
    (task >>= next) bench =
      match task bench with
      | (.ok value, between) => next value between
      | (.error fault, between) => (.error fault, between) := by
  show (ExceptT.bind task next) bench = _
  simp only [ExceptT.bind, ExceptT.mk, bind, StateT.bind]
  split
  next outcome between ended =>
    cases outcome with
    | ok value => simp [ended, ExceptT.bindCont]
    | error fault =>
      rw [ended]
      rfl

/-- A sequence returns what its second part does after its first part. -/
theorem returns_bind {task : Task α} {next : α → Task β} {bench after : Bench} {result : β} :
    (task >>= next).Returns bench result after ↔
      ∃ value between, task.Returns bench value between ∧
        (next value).Returns between result after := by
  unfold Returns
  rw [bind_apply]
  constructor
  · intro returned
    split at returned
    next value between ended => exact ⟨value, between, ended, returned⟩
    next => cases returned
  · rintro ⟨value, between, first, second⟩
    rw [first]
    exact second

/-- A given value is returned at once. -/
theorem returns_pure {value result : α} {bench after : Bench} :
    (pure value : Task α).Returns bench result after ↔ result = value ∧ after = bench := by
  constructor
  · intro returned
    cases returned
    exact ⟨rfl, rfl⟩
  · rintro ⟨rfl, rfl⟩
    rfl

/-- A fault returns nothing. -/
theorem returns_throw {fault : Fault} {result : α} {bench after : Bench} :
    (throw fault : Task α).Returns bench result after ↔ False := by
  constructor
  · intro returned
    cases returned
  · exact False.elim

/-- The bench is read as it is. -/
theorem returns_get {bench result after : Bench} :
    (get : Task Bench).Returns bench result after ↔ result = bench ∧ after = bench := by
  constructor
  · intro returned
    cases returned
    exact ⟨rfl, rfl⟩
  · rintro ⟨rfl, rfl⟩
    rfl

/-- What reads the bench first goes on with the bench as it is. -/
theorem returns_get_bind {next : Bench → Task α} {bench after : Bench} {result : α} :
    (get >>= next : Task α).Returns bench result after ↔
      (next bench).Returns bench result after := by
  simp only [returns_bind, returns_get]
  constructor
  · rintro ⟨value, between, ⟨rfl, rfl⟩, rest⟩
    exact rest
  · intro rest
    exact ⟨bench, bench, ⟨rfl, rfl⟩, rest⟩

/-- The bench is replaced by the given one. -/
theorem returns_set {bench given after : Bench} {result : PUnit} :
    (set given : Task PUnit).Returns bench result after ↔ after = given := by
  constructor
  · intro returned
    cases returned
    rfl
  · rintro rfl
    rfl

/-- The bench is changed as told. -/
theorem returns_modify {change : Bench → Bench} {bench after : Bench} {result : PUnit} :
    (modify change : Task PUnit).Returns bench result after ↔ after = change bench := by
  constructor
  · intro returned
    cases returned
    rfl
  · rintro rfl
    rfl

/-- The result of a task is changed as told. -/
theorem returns_map {task : Task α} {change : α → β} {bench after : Bench} {result : β} :
    (change <$> task).Returns bench result after ↔
      ∃ value, task.Returns bench value after ∧ result = change value := by
  rw [map_eq_pure_bind, returns_bind]
  simp only [returns_pure]
  constructor
  · rintro ⟨value, between, first, rfl, rfl⟩
    exact ⟨value, first, rfl⟩
  · rintro ⟨value, first, rfl⟩
    exact ⟨value, after, first, rfl, rfl⟩

/-- The result of a task is forgotten. -/
theorem returns_discard {task : Task α} {bench after : Bench} {result : PUnit} :
    (discard task).Returns bench result after ↔ ∃ value, task.Returns bench value after := by
  show (Function.const α PUnit.unit <$> task).Returns bench result after ↔ _
  rw [returns_map]
  constructor
  · rintro ⟨value, first, _⟩
    exact ⟨value, first⟩
  · rintro ⟨value, first⟩
    exact ⟨value, first, rfl⟩

/-- A record is added to the journal. -/
theorem returns_log {level : Level} {text : String} {bench after : Bench} {result : Unit} :
    (log level text).Returns bench result after ↔
      after = { bench with journal := bench.journal.push (level, text) } := returns_modify

/-- A use of a value returns what it comes to. -/
theorem returns_use {given : Except Misuse α} {result : α} {bench after : Bench} :
    (use given).Returns bench result after ↔ given = .ok result ∧ after = bench := by
  cases given with
  | ok value => simp [use, returns_pure, eq_comm]
  | error cause => simp [use, returns_throw]

/-- A held result is returned, a held fault is not. -/
theorem returns_release {given : Except Fault α} {result : α} {bench after : Bench} :
    (release given).Returns bench result after ↔ given = .ok result ∧ after = bench := by
  cases given with
  | ok value => simp [release, returns_pure, eq_comm]
  | error cause => simp [release, returns_throw]

/-- A draw returns what is drawn. -/
theorem returns_draw {choice : Draw α} {bench after : Bench} {result : α} :
    (draw choice).Returns bench result after ↔
      result = (choice bench.randomness).1 ∧
        after = { bench with randomness := (choice bench.randomness).2 } := by
  constructor
  · intro returned
    cases returned
    exact ⟨rfl, rfl⟩
  · rintro ⟨rfl, rfl⟩
    rfl

variable {holds : Bench → Prop}

/-- What holds of the bench that the task begins on holds of the one on which it returns. -/
def Maintains (holds : Bench → Prop) (task : Task α) : Prop :=
  ∀ bench value after, holds bench → task.Returns bench value after → holds after

theorem maintains_pure (value : α) : Maintains holds (pure value : Task α) := by
  intro bench result after held returned
  rwa [(returns_pure.1 returned).2]

/-- A fault returns on no bench. -/
theorem maintains_throw (fault : Fault) : Maintains holds (throw fault : Task α) :=
  fun _ _ _ _ returned => (returns_throw.1 returned).elim

theorem maintains_get : Maintains holds (get : Task Bench) := by
  intro bench result after held returned
  rwa [(returns_get.1 returned).2]

theorem maintains_modify {change : Bench → Bench}
    (kept : ∀ bench, holds bench → holds (change bench)) :
    Maintains holds (modify change : Task PUnit) := by
  intro bench result after held returned
  rw [returns_modify.1 returned]
  exact kept bench held

theorem maintains_use (given : Except Misuse α) : Maintains holds (use given) := by
  intro bench result after held returned
  rwa [(returns_use.1 returned).2]

/-- A sequence maintains what its parts do. -/
theorem Maintains.bind {task : Task α} {next : α → Task β} (first : Maintains holds task)
    (second : ∀ value, Maintains holds (next value)) : Maintains holds (task >>= next) := by
  intro bench result after held returned
  obtain ⟨value, between, one, two⟩ := returns_bind.1 returned
  exact second value between result after (first bench value between held one) two

/-- Nothing follows a fault. -/
theorem maintains_throw_bind (fault : Fault) (next : α → Task β) :
    Maintains holds (throw fault >>= next) := by
  intro bench result after held returned
  obtain ⟨_, _, thrown, _⟩ := returns_bind.1 returned
  exact (returns_throw.1 thrown).elim

theorem Maintains.discard {task : Task α} (maintains : Maintains holds task) :
    Maintains holds (discard task) := by
  intro bench result after held returned
  obtain ⟨value, returned⟩ := returns_discard.1 returned
  exact maintains bench value after held returned

/-- What is caught is the outcome of the task, on the bench that it leaves. -/
theorem caught_apply (task : Task α) (bench : Bench) :
    caught task bench = (.ok (task bench).1, (task bench).2) := rfl

/-- Begun on a bench for which the condition holds, the task leaves one for which it holds, whichever way
it ends. -/
def Upholds (holds : Bench → Prop) (task : Task α) : Prop :=
  ∀ bench, holds bench → holds (task bench).2

theorem upholds_pure (value : α) : Upholds holds (pure value : Task α) := fun _ held => held

theorem upholds_throw (fault : Fault) : Upholds holds (throw fault : Task α) := fun _ held => held

/-- Nothing follows a fault. -/
theorem upholds_throw_bind (fault : Fault) (next : α → Task β) :
    Upholds holds (throw fault >>= next) := fun _ held => held

/-- A sequence upholds what its parts do. -/
theorem Upholds.bind {task : Task α} {next : α → Task β} (first : Upholds holds task)
    (second : ∀ value, Upholds holds (next value)) : Upholds holds (task >>= next) := by
  intro bench held
  have kept := first bench held
  rw [bind_apply]
  generalize task bench = outcome at kept
  obtain ⟨outcome, later⟩ := outcome
  cases outcome with
  | ok value => exact second value later kept
  | error fault => exact kept

/-- What reads the bench first reads one for which the condition holds. -/
theorem upholds_get_bind {next : Bench → Task α}
    (second : ∀ bench, holds bench → Upholds holds (next bench)) :
    Upholds holds (get >>= next) := fun bench held => second bench held bench held

theorem upholds_set {given : Bench} (held : holds given) : Upholds holds (set given : Task PUnit) :=
  fun _ _ => held

theorem upholds_modify {change : Bench → Bench} (kept : ∀ bench, holds bench → holds (change bench)) :
    Upholds holds (modify change : Task PUnit) := fun bench held => kept bench held

theorem upholds_use (given : Except Misuse α) : Upholds holds (use given) := by
  cases given with
  | ok value => exact upholds_pure value
  | error cause => exact upholds_throw _

theorem upholds_release (given : Except Fault α) : Upholds holds (release given) := by
  cases given with
  | ok value => exact upholds_pure value
  | error fault => exact upholds_throw fault

theorem upholds_ite {test : Prop} [Decidable test] {one other : Task α} (first : Upholds holds one)
    (second : Upholds holds other) : Upholds holds (if test then one else other) := by
  split
  · exact first
  · exact second

theorem Upholds.discard {task : Task α} (upholds : Upholds holds task) :
    Upholds holds (discard task) := by
  show Upholds holds (Function.const α PUnit.unit <$> task)
  rw [map_eq_pure_bind]
  exact upholds.bind fun _ => upholds_pure _

theorem Upholds.caught {task : Task α} (upholds : Upholds holds task) : Upholds holds (caught task) :=
  upholds

/-- A task with something to clean up upholds what both do. -/
theorem Upholds.withCleanup {task : Task α} {cleanup : Task Unit} (first : Upholds holds task)
    (second : Upholds holds cleanup) : Upholds holds (withCleanup task cleanup) :=
  first.caught.bind fun _ => second.bind fun _ => upholds_release _

end Task

end SerialCheck

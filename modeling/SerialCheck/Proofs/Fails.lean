import SerialCheck.Proofs.Task

/-!
# How tasks fail

`Task.Fails` says that a task, begun on one bench, ends in a fault, in which one and on which bench;
it has one equivalence for each way of building a task, as `Task.Returns` has. `Task.Ensures` says
what holds when a task has returned and which faults it may end in, so that a sequence is followed
once for both.
-/
namespace SerialCheck

namespace Task

variable {α β : Type}

/-- Begun on the first bench, the task ends in the fault and leaves the second bench. -/
def Fails (task : Task α) (bench : Bench) (fault : Fault) (after : Bench) : Prop :=
  task bench = (.error fault, after)

/-- A task returns or fails. -/
theorem returns_or_fails (task : Task α) (bench : Bench) :
    (∃ result after, task.Returns bench result after) ∨
      ∃ fault after, task.Fails bench fault after := by
  unfold Returns Fails
  generalize task bench = outcome
  obtain ⟨outcome, after⟩ := outcome
  cases outcome with
  | ok result => exact .inl ⟨result, after, rfl⟩
  | error fault => exact .inr ⟨fault, after, rfl⟩

/-- A task that fails does not return. -/
theorem Fails.not_returns {task : Task α} {bench after other : Bench} {fault : Fault} {result : α}
    (failed : task.Fails bench fault after) : ¬ task.Returns bench result other := by
  intro returned
  have same : (Except.error fault, after) = (Except.ok result, other) := failed.symm.trans returned
  cases same

/-- The fault in which a task ends, if it fails. -/
def fault? (task : Task α) (bench : Bench) : Option Fault :=
  match (task bench).1 with
  | .ok _ => none
  | .error fault => some fault

/-- A task of whose fault something can be seen fails. -/
theorem fails_of_map {task : Task α} {bench : Bench} {view : Fault → β} {seen : β}
    (shown : (task.fault? bench).map view = some seen) :
    ∃ fault after, task.Fails bench fault after ∧ view fault = seen := by
  unfold fault? at shown
  unfold Fails
  generalize task bench = outcome at shown ⊢
  obtain ⟨outcome, after⟩ := outcome
  cases outcome with
  | ok result => cases shown
  | error fault => exact ⟨fault, after, rfl, Option.some.inj shown⟩

/-- A sequence fails in its first part, or in its second part after the first one. -/
theorem fails_bind {task : Task α} {next : α → Task β} {bench after : Bench} {fault : Fault} :
    (task >>= next).Fails bench fault after ↔
      task.Fails bench fault after ∨
        ∃ value between, task.Returns bench value between ∧
          (next value).Fails between fault after := by
  unfold Fails Returns
  rw [bind_apply]
  constructor
  · intro failed
    split at failed
    next value between ended => exact .inr ⟨value, between, ended, failed⟩
    next earlier between ended =>
      cases failed
      exact .inl ended
  · rintro (failed | ⟨value, between, first, second⟩)
    · rw [failed]
    · rw [first]
      exact second

/-- After a first part that returns, a sequence is its second part. -/
theorem Returns.bind_apply {task : Task α} {bench between : Bench} {value : α}
    (returned : task.Returns bench value between) (next : α → Task β) :
    (task >>= next) bench = next value between := by
  rw [Task.bind_apply, show task bench = _ from returned]

/-- Nothing comes after a first part that fails. -/
theorem Fails.bind {task : Task α} {bench after : Bench} {fault : Fault}
    (failed : task.Fails bench fault after) (next : α → Task β) :
    (task >>= next).Fails bench fault after := fails_bind.2 (.inl failed)

/-- A given value is no fault. -/
theorem fails_pure {value : α} {bench after : Bench} {fault : Fault} :
    (pure value : Task α).Fails bench fault after ↔ False := by
  constructor
  · intro failed
    cases failed
  · exact False.elim

/-- A fault that is thrown is the one that the task ends in. -/
theorem fails_throw {given fault : Fault} {bench after : Bench} :
    (throw given : Task α).Fails bench fault after ↔ fault = given ∧ after = bench := by
  constructor
  · intro failed
    cases failed
    exact ⟨rfl, rfl⟩
  · rintro ⟨rfl, rfl⟩
    rfl

/-- Reading the bench does not fail. -/
theorem fails_get {bench after : Bench} {fault : Fault} :
    (get : Task Bench).Fails bench fault after ↔ False := by
  constructor
  · intro failed
    cases failed
  · exact False.elim

/-- What reads the bench first fails on the bench as it is. -/
theorem fails_get_bind {next : Bench → Task α} {bench after : Bench} {fault : Fault} :
    (get >>= next : Task α).Fails bench fault after ↔ (next bench).Fails bench fault after := by
  simp only [fails_bind, fails_get, returns_get, false_or]
  constructor
  · rintro ⟨value, between, ⟨rfl, rfl⟩, rest⟩
    exact rest
  · intro rest
    exact ⟨bench, bench, ⟨rfl, rfl⟩, rest⟩

/-- Changing the bench does not fail. -/
theorem fails_modify {change : Bench → Bench} {bench after : Bench} {fault : Fault} :
    (modify change : Task PUnit).Fails bench fault after ↔ False := by
  constructor
  · intro failed
    cases failed
  · exact False.elim

/-- Replacing the bench does not fail. -/
theorem fails_set {given bench after : Bench} {fault : Fault} :
    (set given : Task PUnit).Fails bench fault after ↔ False := by
  constructor
  · intro failed
    cases failed
  · exact False.elim

/-- A record in the journal does not fail. -/
theorem fails_log {level : Level} {text : String} {bench after : Bench} {fault : Fault} :
    (log level text).Fails bench fault after ↔ False := fails_modify

/-- A draw does not fail. -/
theorem fails_draw {choice : Draw α} {bench after : Bench} {fault : Fault} :
    (draw choice).Fails bench fault after ↔ False := by
  constructor
  · intro failed
    cases failed
  · exact False.elim

/-- A use of a value fails if it is a misuse. -/
theorem fails_use {given : Except Misuse α} {bench after : Bench} {fault : Fault} :
    (use given).Fails bench fault after ↔
      ∃ cause, given = .error cause ∧ fault = .misuse cause ∧ after = bench := by
  cases given with
  | ok value => simp [use, fails_pure]
  | error cause => simp [use, fails_throw]

/-- A held fault is the one that its release ends in. -/
theorem fails_release {given : Except Fault α} {bench after : Bench} {fault : Fault} :
    (release given).Fails bench fault after ↔ given = .error fault ∧ after = bench := by
  cases given with
  | ok value => simp [release, fails_pure]
  | error held => simp [release, fails_throw, eq_comm]

/-- Forgetting the result of a task does not change how it fails. -/
theorem fails_discard {task : Task α} {bench after : Bench} {fault : Fault} :
    (discard task).Fails bench fault after ↔ task.Fails bench fault after := by
  show (Function.const α PUnit.unit <$> task).Fails bench fault after ↔ _
  rw [map_eq_pure_bind, fails_bind]
  simp only [fails_pure, and_false, exists_false, or_false]

/-- Begun on a bench for which the first condition holds, the task ends in a fault only if it is an
admitted one, and where it returns the second condition holds of the result and the bench. -/
structure Ensures (before : Bench → Prop) (admits : Fault → Prop) (task : Task α)
    (holds : α → Bench → Prop) : Prop where
  /-- What holds when the task has returned. -/
  returns : ∀ bench value after, before bench → task.Returns bench value after → holds value after
  /-- What it may end in. -/
  fails : ∀ bench fault after, before bench → task.Fails bench fault after → admits fault

variable {before : Bench → Prop} {admits : Fault → Prop} {holds : α → Bench → Prop}
  {later : β → Bench → Prop}

/-- What a given value ensures held before. -/
theorem ensures_pure {value : α} (held : ∀ bench, before bench → holds value bench) :
    Ensures before admits (pure value) holds where
  returns := by
    intro bench result after fine returned
    obtain ⟨rfl, rfl⟩ := returns_pure.1 returned
    exact held _ fine
  fails := fun _ _ _ _ failed => (fails_pure.1 failed).elim

/-- An admitted fault ensures everything. -/
theorem ensures_throw {fault : Fault} (admitted : admits fault) :
    Ensures before admits (throw fault : Task α) holds where
  returns := fun _ _ _ _ returned => (returns_throw.1 returned).elim
  fails := by
    intro bench thrown after _ failed
    rw [(fails_throw.1 failed).1]
    exact admitted

/-- A sequence ensures what its second part does after its first part. -/
theorem Ensures.bind {task : Task α} {next : α → Task β}
    (first : Ensures before admits task holds)
    (second : ∀ value, Ensures (holds value) admits (next value) later) :
    Ensures before admits (task >>= next) later where
  returns := by
    intro bench result after fine returned
    obtain ⟨value, between, one, two⟩ := returns_bind.1 returned
    exact (second value).returns between result after (first.returns bench value between fine one)
      two
  fails := by
    intro bench fault after fine failed
    rcases fails_bind.1 failed with one | ⟨value, between, one, two⟩
    · exact first.fails bench fault after fine one
    · exact (second value).fails between fault after (first.returns bench value between fine one)
        two

/-- A sequence ensures what its second part does, after a condition that its first part ensures. -/
theorem Ensures.through {task : Task α} {next : α → Task β} (between : α → Bench → Prop)
    (first : Ensures before admits task between)
    (second : ∀ value, Ensures (between value) admits (next value) later) :
    Ensures before admits (task >>= next) later := first.bind second

/-- What reads the bench first goes on for each bench by itself. -/
theorem ensures_get_bind {next : Bench → Task α}
    (each : ∀ bench, before bench → Ensures (· = bench) admits (next bench) holds) :
    Ensures before admits (get >>= next) holds where
  returns := by
    intro bench result after fine returned
    exact (each bench fine).returns bench result after rfl (returns_get_bind.1 returned)
  fails := by
    intro bench fault after fine failed
    exact (each bench fine).fails bench fault after rfl (fails_get_bind.1 failed)

/-- A change of the bench ensures what holds of the changed one. -/
theorem ensures_modify {change : Bench → Bench} {holds : PUnit → Bench → Prop}
    (held : ∀ bench, before bench → holds ⟨⟩ (change bench)) :
    Ensures before admits (modify change : Task PUnit) holds where
  returns := by
    intro bench result after fine returned
    rw [returns_modify.1 returned]
    exact held bench fine
  fails := fun _ _ _ _ failed => (fails_modify.1 failed).elim

/-- Nothing follows an admitted fault. -/
theorem ensures_throw_bind {fault : Fault} (admitted : admits fault) (next : α → Task β) :
    Ensures before admits (throw fault >>= next) later where
  returns := by
    intro bench result after _ returned
    obtain ⟨_, _, thrown, _⟩ := returns_bind.1 returned
    exact (returns_throw.1 thrown).elim
  fails := by
    intro bench thrown after _ failed
    rcases fails_bind.1 failed with first | ⟨_, _, returned, _⟩
    · rw [(fails_throw.1 first).1]
      exact admitted
    · exact (returns_throw.1 returned).elim

/-- A use of a value ensures what holds of the value, if its misuse is admitted. -/
theorem ensures_use {given : Except Misuse α}
    (held : ∀ bench value, before bench → given = .ok value → holds value bench)
    (misused : ∀ bench cause, before bench → given = .error cause → admits (.misuse cause)) :
    Ensures before admits (use given) holds where
  returns := by
    intro bench result after fine returned
    obtain ⟨same, rfl⟩ := returns_use.1 returned
    exact held _ result fine same
  fails := by
    intro bench fault after fine failed
    obtain ⟨cause, same, rfl, _⟩ := fails_use.1 failed
    exact misused bench cause fine same

/-- The release of a held result ensures what holds of the result, if a held fault is admitted. -/
theorem ensures_release {given : Except Fault α}
    (held : ∀ bench value, before bench → given = .ok value → holds value bench)
    (failed : ∀ bench fault, before bench → given = .error fault → admits fault) :
    Ensures before admits (release given) holds where
  returns := by
    intro bench result after fine returned
    obtain ⟨same, rfl⟩ := returns_release.1 returned
    exact held _ result fine same
  fails := by
    intro bench fault after fine fails
    exact failed bench fault fine (fails_release.1 fails).1

/-- What holds before may be used to tell what is ensured. -/
theorem Ensures.of_holds {task : Task α}
    (each : ∀ bench, before bench → Ensures (· = bench) admits task holds) :
    Ensures before admits task holds where
  returns := fun bench value after fine returned =>
    (each bench fine).returns bench value after rfl returned
  fails := fun bench fault after fine failed => (each bench fine).fails bench fault after rfl failed

/-- More may hold before, and less afterwards. -/
theorem Ensures.mono {task : Task α} {sooner : Bench → Prop} {weaker : α → Bench → Prop}
    (ensures : Ensures before admits task holds) (stronger : ∀ bench, sooner bench → before bench)
    (enough : ∀ value bench, holds value bench → weaker value bench) :
    Ensures sooner admits task weaker where
  returns := fun bench value after fine returned =>
    enough value after (ensures.returns bench value after (stronger bench fine) returned)
  fails := fun bench fault after fine failed =>
    ensures.fails bench fault after (stronger bench fine) failed

end Task

end SerialCheck

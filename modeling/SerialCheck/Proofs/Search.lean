import SerialCheck.Proofs.Consistent
import SerialCheck.Proofs.Orders

/-!
# The search through the candidate orders

On a ready bench every serial run returns and leaves the bench ready, and the comparison with an
interleaved run comes to a verdict (`Finished.judges`). So the search ends: with a consistent
verdict if one of the orders leads to one, and with an inconsistent one if each of them does.
-/
namespace SerialCheck

/-- On every bench that is ready the serial run in an order returns, and the comparison with its trace
comes to a verdict that fits. -/
def Judges (ground : Ground) (batch : Batch) (test : Trace) (order : List Value)
    (fits : Verdict → Prop) : Prop :=
  ∀ bench, Ready ground batch bench → ∃ serial after verdict,
    (Run.run batch .serialized (some test) (.array order)).Returns bench serial after ∧
      Ready ground batch after ∧ Comparison.compare test serial = .ok verdict ∧ fits verdict

namespace Check

variable {ground : Ground} {batch : Batch} {test serial : Trace} {first : Option Finding}
  {order : List Value} {orders : List (List Value)} {bench after : Bench}

theorem compare_returns {verdict : Verdict} (compared : Comparison.compare test serial = .ok verdict) :
    (compare test serial).Returns bench verdict bench := by
  rw [compare, compared]
  exact Task.returns_pure.2 ⟨rfl, rfl⟩

/-- The search ends at an order that leads to a consistent verdict. -/
theorem searchOrders_of_consistent
    (ran : (Run.run batch .serialized (some test) (.array order)).Returns bench serial after)
    (compared : Comparison.compare test serial = .ok .consistent) :
    (searchOrders batch test first (order :: orders)).Returns bench .consistent after := by
  rw [searchOrders, Task.returns_bind]
  refine ⟨serial, after, ran, ?_⟩
  rw [Task.returns_bind]
  exact ⟨.consistent, after, compare_returns compared, Task.returns_pure.2 ⟨rfl, rfl⟩⟩

/-- The search goes on behind an order that leads to a finding, which is recorded. -/
theorem searchOrders_of_inconsistent {finding : Finding} {fits : Verdict → Prop}
    (ran : (Run.run batch .serialized (some test) (.array order)).Returns bench serial after)
    (compared : Comparison.compare test serial = .ok (.inconsistent finding))
    (further : ∀ noted : Bench, noted.scene = after.scene → ∃ verdict last, fits verdict ∧
      (searchOrders batch test (first.or (some finding)) orders).Returns noted verdict last) :
    ∃ verdict last, fits verdict ∧
      (searchOrders batch test first (order :: orders)).Returns bench verdict last := by
  obtain ⟨noted, recorded, scene⟩ : ∃ noted, (recordDivergence order finding).Returns after () noted ∧
      noted.scene = after.scene := ⟨_, Task.returns_log.2 rfl, rfl⟩
  obtain ⟨verdict, last, fit, returned⟩ := further noted scene
  refine ⟨verdict, last, fit, ?_⟩
  rw [searchOrders, Task.returns_bind]
  refine ⟨serial, after, ran, ?_⟩
  rw [Task.returns_bind]
  refine ⟨.inconsistent finding, after, compare_returns compared, ?_⟩
  rw [Task.returns_bind]
  exact ⟨(), noted, recorded, returned⟩

/-- If one of the orders leads to a consistent verdict, so does the search. -/
theorem searchOrders_consistent
    (all : ∀ order ∈ orders, Judges ground batch test order fun _ => True)
    (one : ∃ order ∈ orders, Judges ground batch test order (· = .consistent))
    (ready : Ready ground batch bench) :
    ∃ after, (searchOrders batch test first orders).Returns bench .consistent after := by
  suffices found : ∃ verdict after, verdict = .consistent ∧
      (searchOrders batch test first orders).Returns bench verdict after by
    obtain ⟨_, after, rfl, returned⟩ := found
    exact ⟨after, returned⟩
  induction orders generalizing first bench with
  | nil =>
    obtain ⟨_, none, _⟩ := one
    cases none
  | cons order rest hypothesis =>
    obtain ⟨serial, between, verdict, ran, again, compared, _⟩ :=
      all order List.mem_cons_self bench ready
    cases verdict with
    | consistent => exact ⟨_, between, rfl, searchOrders_of_consistent ran compared⟩
    | inconsistent finding =>
      have later : ∃ other ∈ rest, Judges ground batch test other (· = .consistent) := by
        obtain ⟨other, listed, judges⟩ := one
        rcases List.mem_cons.1 listed with rfl | inside
        · obtain ⟨same, _, _, alike, _, agrees, rfl⟩ := judges bench ready
          obtain ⟨rfl, _⟩ := ran.unique alike
          rw [agrees] at compared
          cases compared
        · exact ⟨other, inside, judges⟩
      refine searchOrders_of_inconsistent ran compared fun noted scene => ?_
      exact hypothesis (fun other inside => all other (List.mem_cons_of_mem _ inside)) later
        (again.of_scene scene)

/-- If each of the orders leads to an inconsistent verdict, so does the search. -/
theorem searchOrders_inconsistent
    (all : ∀ order ∈ orders,
      Judges ground batch test order fun verdict => ∃ finding, verdict = .inconsistent finding)
    (some : first.isSome = true ∨ orders ≠ []) (ready : Ready ground batch bench) :
    ∃ verdict after, (∃ finding, verdict = .inconsistent finding) ∧
      (searchOrders batch test first orders).Returns bench verdict after := by
  induction orders generalizing first bench with
  | nil =>
    obtain ⟨finding, rfl⟩ := Option.isSome_iff_exists.1 (some.resolve_right (not_not_intro rfl))
    exact ⟨_, bench, ⟨finding, rfl⟩, Task.returns_pure.2 ⟨rfl, rfl⟩⟩
  | cons order rest hypothesis =>
    obtain ⟨serial, between, verdict, ran, again, compared, finding, rfl⟩ :=
      all order List.mem_cons_self bench ready
    refine searchOrders_of_inconsistent ran compared fun noted scene => ?_
    refine hypothesis (fun other inside => all other (List.mem_cons_of_mem _ inside)) (.inl ?_)
      (again.of_scene scene)
    cases first <;> rfl

end Check

namespace Finished

variable {ground : Ground} {batch : Batch} {moment : Moment} {order : List OpenTransaction}

/-- The serial run in any order of the transactions leads to a verdict. -/
theorem judges (finished : Finished ground.base batch moment) (sound : ground.Sound)
    (cast : batch.Cast ground.admin) (permuted : order.Perm batch) :
    Judges ground batch (moment.traceOn ground) (order.map (·.id)) fun _ => True := by
  intro bench ready
  have cuts : ∀ transaction ∈ batch, transaction.Cuts
      (Run.cutOf (moment.traceOn ground).abortedAt transaction.id) := fun _ => finished.cuts
  obtain ⟨serial, after, returned, again, _⟩ := ready.serial_run sound cast
    permuted cuts
  obtain ⟨outcome, judged⟩ := finished.final.judged finished.sound cast.numbered
    fun transaction member statement own =>
      (Run.serial_resultFor cast.numbered (permuted.map _) returned member own).imp fun _ => And.left
  exact ⟨serial, after, _, returned, again, congrArg (Except.map _) judged, trivial⟩

/-- A serial run that repeats the turns returns: it has the results of the statements that were not
blocked, but for lock conflicts, and leaves the same contents in the tables. -/
theorem repeated (finished : Finished ground.base batch moment) (sound : ground.Sound)
    (cast : batch.Cast ground.admin)
    (repeats : Repeats batch ground.base moment.turns moment.progress.trace.abortedAt order)
    {bench : Bench} (ready : Ready ground batch bench) :
    ∃ serial after, (Run.run batch .serialized (some (moment.traceOn ground))
        (.array (order.map (·.id)))).Returns bench serial after ∧ Ready ground batch after ∧
      (∀ result ∈ moment.progress.trace.results, result.isBlocked = false →
        (result.isLockConflict = .ok false ∧ serial.resultFor? result.statement = some result) ∨
          (result.isLockConflict = .ok true ∧
            serial.resultFor? result.statement = some (Run.skipped result.statement false))) ∧
        serial.finalState = (moment.traceOn ground).finalState ∧
          Comparison.compare (moment.traceOn ground) serial = .ok .consistent := by
  have cuts : ∀ transaction ∈ batch, transaction.Cuts
      (Run.cutOf (moment.traceOn ground).abortedAt transaction.id) := fun _ => finished.cuts
  obtain ⟨serial, after, returned, again, heard, contents⟩ := ready.serial_run sound cast
    repeats.permuted cuts
  have tables : serial.finalState = (moment.traceOn ground).finalState := by
    rw [contents]
    show (ground.base.adding (committed ground.base
      (Run.playedTurns moment.progress.trace.abortedAt order))).contents _ = _
    rw [repeats.committed]
    rfl
  exact ⟨serial, after, returned, again,
    fun _ => finished.resultFor_eq cast repeats returned heard, tables,
    finished.compare_consistent cast repeats returned heard tables⟩

/-- If no transaction both reads and writes, the serial run in the serial order of the turns leads to a
consistent verdict. -/
theorem judges_consistent (finished : Finished ground.base batch moment) (sound : ground.Sound)
    (cast : batch.Cast ground.admin) (divided : ∀ transaction ∈ batch, transaction.OneSided)
    (serialized : Serialized batch ground.base moment.turns order) :
    Judges ground batch (moment.traceOn ground) ((completed batch order).map (·.id))
      (· = .consistent) := by
  intro bench ready
  have repeats := serialized.repeats cast.numbered (finished.closed cast.spoken) cast.spoken divided
    fun _ => finished.inOrder
  obtain ⟨serial, after, returned, again, _, _, compared⟩ :=
    finished.repeated sound cast repeats ready
  exact ⟨serial, after, _, returned, again, compared, rfl⟩

/-- The preferred order is one of all transactions. -/
theorem preferred_perm (finished : Finished ground.base batch moment) (numbered : batch.Numbered) :
    (Order.preferred batch.ids (some (moment.traceOn ground))).Perm batch.ids := by
  refine Order.preferred_perm (fun id inside => ?_) numbered.distinct
    finished.sound.known.snapshots finished.sound.known.ends
  obtain ⟨transaction, member, rfl⟩ := List.mem_map.1 inside
  exact numbered.id_isWhole member

end Finished

end SerialCheck

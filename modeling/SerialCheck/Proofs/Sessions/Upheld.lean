import SerialCheck.Check
import SerialCheck.Proofs.Plan

/-!
# What a check upholds

A fault leaves the bench as far as the task had come, so what holds after a task that may fail is what
each of its parts upholds, whichever way it ends (`Task.Upholds`). A durable condition is upheld while a
batch is checked (`Bench.Durable.checkBatch`).
-/
namespace SerialCheck

namespace Check

/-- The runs of a batch that is noted as the last one. -/
def checkNoted (batch : Batch) : Task Verdict := do
  let test ← Run.run batch .interleaved none .null
  let order := Order.preferred batch.ids (some test)
  let limit ← Task.use (Order.limitOf (← get).settings.maxOrders order.length)
  searchOrders batch test none (Order.candidates limit order)

/-- A batch is noted and then run. -/
theorem checkBatch_eq (batch : Batch) : checkBatch batch = (do
    modify fun bench => { bench with lastBatch := batch.map OpenTransaction.toTransaction }
    checkNoted batch) := rfl

end Check

namespace Bench

open SerialCheck.Task

namespace Durable

variable {holds : Bench → Prop} (durable : Durable holds)

include durable

/-! ## Serial runs -/

theorem reportUnexpected (statement : Statement) (outcome : Outcome) :
    Upholds holds (Run.reportUnexpected statement outcome) := by
  unfold Run.reportUnexpected
  split
  · exact upholds_pure _
  · refine (upholds_use _).bind fun expected => ?_
    split
    · exact upholds_pure _
    · exact durable.log _ _

omit durable in
theorem member (batch : Batch) (id : Value) : Upholds holds (Run.member batch id) := by
  unfold Run.member
  cases id.unfit? with
  | some cause =>
    split <;> exact upholds_throw_bind _ _
  | none =>
    split
    · exact upholds_pure _
    · exact upholds_throw _

theorem replayStatements (id : Value) (session : Session) (cut : Value) (statements : List Statement)
    (trace : Trace) : Upholds holds (Run.replayStatements id session cut statements trace) := by
  induction statements generalizing trace with
  | nil => exact upholds_pure _
  | cons statement statements hypothesis =>
    refine (upholds_use _).bind fun behind => ?_
    split
    · exact hypothesis _
    · refine (durable.execute _ _).bind fun outcome => ?_
      exact (durable.reportUnexpected _ _).bind fun _ => hypothesis _

theorem replayAll (batch : Batch) (aborts : List (Value × Value)) (order : List Value)
    (trace : Trace) : Upholds holds (Run.replayAll batch aborts order trace) := by
  induction order generalizing trace with
  | nil => exact upholds_pure _
  | cons id order hypothesis =>
    refine (member batch id).bind fun transaction => Upholds.bind ?_ fun _ => hypothesis _
    refine (durable.replayStatements _ _ _ _ _).bind fun trace => ?_
    split
    · exact upholds_pure _
    · exact (durable.rollback _).bind fun _ => upholds_pure _

theorem serial (batch : Batch) (reference : Option Trace) (order : Value) :
    Upholds holds (Run.serial batch reference order) :=
  (upholds_use _).bind fun _ => durable.replayAll _ _ _ _

/-! ## Interleaved runs -/

theorem setTime (now : Number) : Upholds holds (Run.setTime now) :=
  durable.quiet fun _ => ⟨rfl, rfl, rfl, rfl, rfl⟩

omit durable in
theorem deadline (timeout : Value) : Upholds holds (Run.deadline timeout) := by
  refine upholds_get_bind fun bench _ => (upholds_use _).bind fun time => ?_
  split
  · exact upholds_throw_bind _ _
  · exact upholds_pure _

theorem await (finish : Number) (timeout : Value) : Upholds holds (Run.await finish timeout) := by
  refine upholds_get_bind fun bench _ => ?_
  split
  · exact upholds_pure _
  · split
    · exact (durable.setTime _).bind fun _ => upholds_pure _
    · refine (deadline _).bind fun time => ?_
      unfold Run.awaitUntil
      split <;> exact (durable.setTime _).bind fun _ => upholds_pure _

omit durable in
theorem finishTime (delay : Number) : Upholds holds (Run.finishTime delay) :=
  upholds_get_bind fun _ _ => upholds_use _

theorem rollbackInTime (session : Session) : Upholds holds (Run.rollbackInTime session) := by
  refine (durable.sendRollback _).bind fun reply => (finishTime _).bind fun finish => ?_
  refine upholds_get_bind fun bench _ => (durable.await _ _).bind fun finished => ?_
  split
  · exact (upholds_release _).discard
  · exact upholds_throw _

/-- Recording an outcome upholds a durable condition, also if the transaction is aborted by it. -/
theorem record (transaction : OpenTransaction) (statement : Statement) (outcome : Outcome)
    (blocked : Bool) (progress : Progress) :
    Upholds holds (Run.record transaction statement outcome blocked progress) := by
  have aborted (report : String) (progress : Progress) :
      Upholds holds (Run.abortAt transaction statement report progress) :=
    (durable.log _ _).bind fun _ => (durable.rollbackInTime _).bind fun _ => upholds_pure _
  refine (durable.reportUnexpected _ _).bind fun _ => ?_
  dsimp only
  split
  · exact upholds_pure _
  · split
    · exact (aborted _ _).bind fun _ => upholds_pure _
    · exact upholds_pure _

theorem settle (batch : Batch) (waiting : List Parked) (progress : Progress) :
    Upholds holds (Run.settle batch waiting progress) := by
  induction waiting generalizing progress with
  | nil => exact upholds_pure _
  | cons parked waiting hypothesis =>
    refine upholds_get_bind fun bench _ => ?_
    split
    · refine (member batch _).bind fun transaction => (upholds_release _).bind fun outcome => ?_
      exact (durable.record _ _ _ _ _).bind fun _ => hypothesis _
    · exact hypothesis _

theorem pick (first : OpenTransaction) (others : Batch) : Upholds holds (Run.pick first others) := by
  refine upholds_get_bind fun bench held => ?_
  split
  · exact durable.draw _
  · refine (upholds_set ?_).bind fun _ => upholds_pure _
    exact durable.beside held ⟨rfl, rfl, rfl, rfl, rfl⟩

theorem sendNext (transaction : OpenTransaction) (progress : Progress) :
    Upholds holds (Run.sendNext transaction progress) := by
  unfold Run.sendNext
  split
  · refine (durable.send _ _).bind fun reply => (finishTime _).bind fun finish => ?_
    refine upholds_get_bind fun bench _ => (durable.await _ _).bind fun finished => ?_
    split
    · exact (upholds_release _).bind fun outcome => durable.record _ _ _ _ _
    · exact (durable.log _ _).bind fun _ => upholds_pure _
  · exact upholds_pure _

theorem waitForParked (first : Parked) (others : List Parked) :
    Upholds holds (Run.waitForParked first others) := by
  refine upholds_get_bind fun bench _ => (deadline _).bind fun time => ?_
  exact (durable.setTime _).bind fun _ => upholds_ite (upholds_throw _) (upholds_pure _)

theorem steps (batch : Batch) (count : Nat) (progress : Progress) :
    Upholds holds (Run.steps batch count progress) := by
  induction count generalizing progress with
  | zero => exact upholds_throw _
  | succ count hypothesis =>
    refine (durable.settle _ _ _).bind fun progress => ?_
    split
    · refine (durable.pick _ _).bind fun transaction => ?_
      exact (durable.sendNext _ _).bind fun _ => hypothesis _
    · exact (durable.waitForParked _ _).bind fun _ => hypothesis _
    · exact upholds_pure _

/-! ## Checks -/

/-- A run upholds a durable condition, whichever way it ends. -/
theorem run (batch : Batch) (strategy : Strategy) (reference : Option Trace) (order : Value) :
    Upholds holds (Run.run batch strategy reference order) := by
  have ran : Upholds holds (Run.byStrategy batch reference order strategy) := by
    cases strategy with
    | interleaved => exact upholds_get_bind fun bench _ => durable.steps _ _ _
    | serialized => exact durable.serial _ _ _
  refine durable.reproduce.bind fun _ => (durable.log _ _).bind fun _ => ?_
  split
  · exact upholds_throw_bind _ _
  · exact ran.bind fun trace => durable.snapshot.bind fun _ => upholds_pure _

omit durable in
theorem compare (test serial : Trace) : Upholds holds (Check.compare test serial) := by
  unfold Check.compare
  split
  · exact upholds_pure _
  · exact upholds_throw _

theorem searchOrders (batch : Batch) (test : Trace) (first : Option Finding)
    (orders : List (List Value)) : Upholds holds (Check.searchOrders batch test first orders) := by
  induction orders generalizing first with
  | nil => exact upholds_pure _
  | cons order orders hypothesis =>
    refine (durable.run _ _ _ _).bind fun serial => (compare _ _).bind fun verdict => ?_
    split
    · exact upholds_pure _
    · exact (durable.log _ _).bind fun _ => hypothesis _

/-- The runs of a batch that is noted uphold a durable condition. -/
theorem checkNoted (batch : Batch) : Upholds holds (Check.checkNoted batch) := by
  refine (durable.run _ _ _ _).bind fun test => upholds_get_bind fun bench _ => ?_
  exact (upholds_use _).bind fun limit => durable.searchOrders _ _ _ _

/-- Checking a batch upholds a durable condition that outlasts the note of the batch, whichever way it
ends. -/
theorem checkBatch (noted : ∀ {bench : Bench} (lastBatch), holds bench → holds { bench with lastBatch })
    (batch : Batch) : Upholds holds (Check.checkBatch batch) := by
  rw [Check.checkBatch_eq]
  exact (upholds_modify fun _ held => noted _ held).bind fun _ => durable.checkNoted batch

theorem recordVerdict (batch : Batch) (verdict : Verdict) :
    Upholds holds (Check.recordVerdict batch verdict) := by
  cases verdict <;> exact durable.log _ _

end Durable

end Bench

end SerialCheck

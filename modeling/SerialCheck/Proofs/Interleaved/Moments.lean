import SerialCheck.Proofs.Interleaved.View

/-!
# Moments of an interleaved run

A run passes through moments: it settles a parked statement that is finished, or sends the next
statement of a transaction that can continue, or, if none can, waits for the parked ones.
`Next` says what one such step does, and `Reached` which moments a run can come to.
-/
namespace SerialCheck

/-- A moment of an interleaved run. -/
structure Moment where
  /-- How far the run has come. -/
  progress : Progress
  /-- The bench. -/
  bench : Bench
  /-- The statements that have been sent so far, in order. -/
  sendings : List Sending

namespace Moment

/-- The moment at which a run begins. -/
def first (bench : Bench) : Moment := ⟨{}, bench, []⟩

/-- The statements that a transaction has sent so far. -/
def sendingsOf (moment : Moment) (id : Value) : List Sending :=
  moment.sendings.filter (·.transaction.id.alike id)

end Moment

namespace Run

/-- The scheduled choice is one of those to choose from. -/
theorem pickScheduled_mem (first : OpenTransaction) (others : Batch) (schedule : List Value) :
    (pickScheduled first others schedule).1 ∈ first :: others := by
  cases schedule with
  | nil => exact List.mem_cons_self
  | cons id schedule =>
    show ((first :: others).find? fun transaction => transaction.id.alike id).getD first ∈ _
    cases found : (first :: others).find? fun transaction => transaction.id.alike id with
    | none => exact List.mem_cons_self
    | some member => exact List.mem_of_find?_eq_some found

/-- A choice is one of those to choose from, and changes nothing that texts are answered by. -/
theorem pick_returns {first transaction : OpenTransaction} {others : Batch}
    {bench after : Bench} (returned : (pick first others).Returns bench transaction after) :
    transaction ∈ first :: others ∧ bench.Agrees after := by
  unfold pick at returned
  rw [Task.returns_get_bind] at returned
  split at returned
  next =>
    obtain ⟨chosen, rfl⟩ := Task.returns_draw.1 returned
    rw [chosen]
    exact ⟨Draw.oneOf_mem first others _, ⟨rfl, rfl⟩⟩
  next =>
    simp only [Task.returns_bind, Task.returns_set, Task.returns_pure] at returned
    obtain ⟨_, _, rfl, rfl, rfl⟩ := returned
    exact ⟨pickScheduled_mem first others _, ⟨rfl, rfl⟩⟩

/-- Waiting for parked statements takes nothing but time. -/
theorem waitForParked_returns {first : Parked} {others : List Parked} {bench after : Bench}
    {result : Unit} (returned : (waitForParked first others).Returns bench result after) :
    after.scene = bench.scene := by
  rw [waitForParked, Task.returns_get_bind] at returned
  simp only [Task.returns_bind, setTime_returns] at returned
  obtain ⟨limit, between, found, _, _, rfl, rest⟩ := returned
  have same : between = bench := (deadline_returns found).2
  rw [same] at rest
  have ended : ∀ {stuck : Prop} [Decidable stuck] {fault : Fault} {later : Bench},
      (if stuck then throw fault else pure () : Task Unit).Returns later result after →
        after = later := by
    intro stuck _ fault later returned
    split at returned
    · exact (Task.returns_throw.1 returned).elim
    · exact (Task.returns_pure.1 returned).2
  split at rest
  · rw [ended rest]
    rfl
  · rw [ended rest]
    rfl

/-- What can come right after a moment. -/
inductive Next (batch : Batch) (moment : Moment) : Moment → Prop where
  /-- A parked statement that is finished is recorded. -/
  | settle (parked : Parked) (transaction : OpenTransaction) (outcome : Outcome)
      (progress : Progress) (bench : Bench)
      (waiting : parked ∈ moment.progress.parked)
      (finished : parked.finish.le moment.bench.now = true)
      (found : batch.find? parked.id = some transaction)
      (answered : parked.result = .ok outcome)
      (recorded : (record transaction parked.statement outcome true
        (moment.progress.unpark parked.id)).Returns moment.bench progress bench) :
      Next batch moment ⟨progress, bench, moment.sendings⟩
  /-- The next statement of a transaction that can continue is sent. -/
  | send (first : OpenTransaction) (others : Batch) (transaction : OpenTransaction)
      (statement : Statement) (chosen : Bench) (progress : Progress) (bench : Bench)
      (runnable : moment.progress.runnable batch = first :: others)
      (picked : (pick first others).Returns moment.bench transaction chosen)
      (next : transaction.statements[moment.progress.sent transaction.id]? = some statement)
      (sent : (sendStatement transaction statement moment.progress).Returns chosen progress bench) :
      Next batch moment ⟨progress, bench, moment.sendings ++ [⟨transaction, statement, chosen⟩]⟩
  /-- All that is left has been sent and is waited for. -/
  | wait (first : Parked) (others : List Parked) (bench : Bench)
      (parked : moment.progress.parked = first :: others)
      (none : moment.progress.runnable batch = [])
      (waited : (waitForParked first others).Returns moment.bench () bench) :
      Next batch moment ⟨moment.progress, bench, moment.sendings⟩

/-- The moments that a run which begins on a bench can come to. -/
inductive Reached (batch : Batch) (start : Bench) : Moment → Prop where
  /-- The first one. -/
  | first : Reached batch start (.first start)
  /-- What comes right after one that was reached. -/
  | next {moment after : Moment} (reached : Reached batch start moment)
      (step : Next batch moment after) : Reached batch start after

end Run

end SerialCheck

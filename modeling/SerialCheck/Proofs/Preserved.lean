import SerialCheck.Proofs.Plan
import SerialCheck.Proofs.Serial.Replay

/-!
# What runs preserve

While a batch runs, nothing changes the scene but the statements of its transactions and their rollbacks.
So a run preserves every property of scenes that these texts preserve (`Run.byStrategy_preserves`), among
them what the settings and the setup log are (`Run.run_plan`).
-/
namespace SerialCheck

/-- The texts that the transactions of a batch send preserve a property of scenes. -/
structure Batch.Preserves (batch : Batch) (good : Scene → Prop) : Prop where
  /-- The statements do. -/
  statement : ∀ scene, good scene → ∀ transaction ∈ batch, ∀ statement ∈ transaction.statements,
    good (scene.send transaction.session statement.text)
  /-- So do rollbacks. -/
  rollback : ∀ scene, good scene → ∀ transaction ∈ batch,
    good (scene.send transaction.session (.text Bench.rollbackText))

namespace Run

variable {batch : Batch} {good : Scene → Prop} {transaction : OpenTransaction}

/-- Recording an outcome preserves what a rollback preserves. -/
theorem record_preserves (preserves : batch.Preserves good) (member : transaction ∈ batch)
    {statement : Statement} {outcome : Outcome} {blocked : Bool} {progress result : Progress}
    {bench after : Bench} (holds : good bench.scene)
    (returned : (record transaction statement outcome blocked progress).Returns bench result
      after) : good after.scene := by
  have scene := (record_returns returned).2
  split at scene
  · rw [scene]
    exact preserves.rollback _ holds transaction member
  · rw [scene.scene]
    exact holds

/-- Each step of an interleaved run preserves what the texts preserve. -/
theorem Next.preserves (preserves : batch.Preserves good) {moment after : Moment}
    (step : Next batch moment after) (holds : good moment.bench.scene) : good after.bench.scene := by
  cases step with
  | settle parked transaction outcome progress bench waiting finished found answered recorded =>
    have member : transaction ∈ batch := List.mem_reverse.1 (List.mem_of_find?_eq_some found)
    exact record_preserves preserves member holds recorded
  | send first others transaction statement chosen progress bench runnable picked next sent =>
    obtain ⟨chosenMember, agrees⟩ := pick_returns picked
    have member : transaction ∈ batch :=
      (Progress.mem_runnable.1 (runnable ▸ chosenMember)).1
    obtain ⟨waited, scene, went⟩ := sendStatement_returns sent
    have answered : good waited.scene := by
      rw [scene, Sending.after, Bench.afterSending_scene, agrees.scene]
      exact preserves.statement _ holds transaction member statement (List.mem_of_getElem? next)
    split at went
    · exact went.1.scene ▸ answered
    · exact record_preserves preserves member answered went.2
  | wait first others bench parked none waited =>
    rw [waitForParked_returns waited]
    exact holds

/-- So does the way to each moment. -/
theorem Reached.preserves (preserves : batch.Preserves good) {start : Bench} {moment : Moment}
    (reached : Reached batch start moment) (holds : good start.scene) : good moment.bench.scene := by
  induction reached with
  | first => exact holds
  | next _ step hypothesis => exact step.preserves preserves hypothesis

/-- Replayed statements preserve what the texts preserve. -/
theorem replayStatements_preserves (preserves : batch.Preserves good)
    (member : transaction ∈ batch) {id cut : Value} {statements : List Statement}
    (own : ∀ statement ∈ statements, statement ∈ transaction.statements) {trace result : Trace}
    {bench after : Bench} (holds : good bench.scene)
    (returned : (replayStatements id transaction.session cut statements trace).Returns bench result
      after) : good after.scene := by
  obtain ⟨_, _, replays, _⟩ := replayStatements_returns returned
  exact replays.preserves (fun scene holds statement inside =>
    preserves.statement scene holds transaction member statement (own statement inside)) holds

/-- What is found in a batch is one of its transactions. -/
theorem mem_of_member {id : Value} {bench after : Bench}
    (returned : (member batch id).Returns bench transaction after) :
    transaction ∈ batch ∧ after = bench := by
  unfold member at returned
  cases unfit : id.unfit? with
  | some cause =>
    cases held : batch.find? id <;> simp [held, unfit, Task.returns_throw] at returned
  | none =>
    cases held : batch.find? id with
    | none => simp [held, unfit, Task.returns_throw] at returned
    | some found =>
      simp only [held, unfit] at returned
      obtain ⟨rfl, same⟩ := Task.returns_pure.1 returned
      exact ⟨List.mem_reverse.1 (List.mem_of_find?_eq_some held), same⟩

/-- So do replayed transactions. -/
theorem replayAll_preserves (preserves : batch.Preserves good) {aborts : List (Value × Value)}
    {order : List Value} {trace result : Trace} {bench after : Bench} (holds : good bench.scene)
    (returned : (replayAll batch aborts order trace).Returns bench result after) :
    good after.scene := by
  induction order generalizing trace bench with
  | nil =>
    obtain ⟨_, rfl⟩ := Task.returns_pure.1 returned
    exact holds
  | cons id order hypothesis =>
    simp only [replayAll, Task.returns_bind] at returned
    obtain ⟨transaction, found, looked, further, last, played, rest⟩ := returned
    obtain ⟨member, same⟩ := mem_of_member looked
    subst same
    refine hypothesis ?_ rest
    obtain ⟨noted, middle, replayed, ended⟩ := replay_cases played
    have held := replayStatements_preserves preserves member (fun _ inside => inside) holds replayed
    rcases ended with ⟨_, _, rfl⟩ | ⟨_, _, rolled⟩
    · exact held
    · rw [(Bench.rollback_returns rolled).scene]
      exact preserves.rollback _ held transaction member

/-- A batch that runs by a strategy preserves what its texts preserve. -/
theorem byStrategy_preserves (numbered : batch.Numbered) (preserves : batch.Preserves good)
    {reference : Option Trace} {order : Value} {strategy : Strategy} {trace : Trace}
    {bench after : Bench} (holds : good bench.scene)
    (returned : (byStrategy batch reference order strategy).Returns bench trace after) :
    good after.scene := by
  cases strategy with
  | interleaved =>
    obtain ⟨last, reached, _, _, rfl⟩ := interleaved_returns numbered returned
    exact reached.preserves preserves holds
  | serialized =>
    simp only [byStrategy, serial, Task.returns_bind, Task.returns_use] at returned
    obtain ⟨order, _, ⟨_, rfl⟩, replayed⟩ := returned
    exact replayAll_preserves preserves holds replayed

/-- Runs change neither the settings nor the setup log. -/
theorem run_plan (numbered : batch.Numbered) {strategy : Strategy} {reference : Option Trace}
    {order : Value} {trace : Trace} {bench after : Bench}
    (returned : (run batch strategy reference order).Returns bench trace after) :
    after.settings = bench.settings ∧ after.setupLog = bench.setupLog := by
  obtain ⟨start, ran, between, contents, prepared, _, running, reading, _⟩ :=
    run_returns.1 returned
  have begun := Task.Keeps.of_returns (fun plan =>
    (Bench.durable_plan plan).reproduce.bind fun _ => (Bench.durable_plan plan).log _ _) prepared
  have ended := Task.Keeps.of_returns (fun plan => (Bench.durable_plan plan).snapshot) reading
  simp only [Bench.plan, Prod.mk.injEq] at begun ended
  have texts : batch.Preserves fun scene =>
      scene.settings = start.settings ∧ scene.setupLog = start.setupLog :=
    ⟨fun _ same _ _ _ _ => same, fun _ same _ _ => same⟩
  have middle := byStrategy_preserves numbered texts ⟨rfl, rfl⟩ running
  exact ⟨ended.1.trans (middle.1.trans begun.1), ended.2.1.trans (middle.2.trans begun.2.1)⟩

end Run

end SerialCheck

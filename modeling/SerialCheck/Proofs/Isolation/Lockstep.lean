import SerialCheck.Proofs.Isolation.Twins
import SerialCheck.Proofs.Plan
import SerialCheck.Proofs.Setup.Restore

/-!
# Tasks in lockstep

A task goes in lockstep from related scenes if it ends alike on both and leaves related scenes behind
(`Task.Lockstep`). Whatever is done over the sessions for setup statements of twin scenes goes in
lockstep: reading the catalog, replaying the setup statements and reading the contents of the tables.
-/
namespace SerialCheck

namespace Task

variable {α β : Type} {before between after : Scene → Scene → Prop}

/-- Begun on two benches with related scenes, the task ends alike, and the scenes that it leaves when it
returns are related. -/
def Lockstep (before : Scene → Scene → Prop) (task : Task α) (after : Scene → Scene → Prop) : Prop :=
  ∀ first second : Bench, before first.scene second.scene →
    (task second).1 = (task first).1 ∧
      ∀ value, (task first).1 = .ok value → after (task first).2.scene (task second).2.scene

/-- It ends alike. -/
theorem Lockstep.ends {task : Task α} (lockstep : Lockstep before task before) {first second : Bench}
    (related : before first.scene second.scene) : (task second).1 = (task first).1 :=
  (lockstep first second related).1

/-- What returns from one of two related scenes returns from the other one. -/
theorem Lockstep.returns {task : Task α} (lockstep : Lockstep before task after)
    {first second later : Bench} (related : before first.scene second.scene) {value : α}
    (returned : task.Returns first value later) :
    ∃ other, task.Returns second value other ∧ after later.scene other.scene := by
  obtain ⟨same, further⟩ := lockstep first second related
  unfold Returns at returned ⊢
  rw [returned] at same further
  exact ⟨(task second).2, Prod.ext same rfl, further value rfl⟩

theorem lockstep_pure (value : α) : Lockstep before (pure value) before :=
  fun _ _ related => ⟨rfl, fun _ _ => related⟩

/-- A fault leaves nothing to be related. -/
theorem lockstep_throw (fault : Fault) : Lockstep before (throw fault : Task α) after :=
  fun _ _ _ => ⟨rfl, fun _ returned => by cases returned⟩

/-- A sequence goes in lockstep if its parts do. -/
theorem Lockstep.bind {task : Task α} {next : α → Task β} (first : Lockstep before task between)
    (second : ∀ value, Lockstep between (next value) after) :
    Lockstep before (task >>= next) after := by
  intro one two related
  obtain ⟨same, further⟩ := first one two related
  rw [bind_apply, bind_apply]
  generalize task one = here at same further
  generalize task two = there at same further
  obtain ⟨outcome, here⟩ := here
  obtain ⟨other, there⟩ := there
  dsimp only at same further
  subst same
  cases other with
  | ok value => exact second value here there (further value rfl)
  | error fault => exact ⟨rfl, fun _ returned => by cases returned⟩

/-- So does a task whose result is changed as told. -/
theorem Lockstep.map {task : Task α} (lockstep : Lockstep before task after) (change : α → β) :
    Lockstep before (change <$> task) after := by
  rw [map_eq_pure_bind]
  exact lockstep.bind fun _ => lockstep_pure _

/-- What is read of the benches first has to be the same on both. -/
theorem lockstep_get_bind (view : Bench → β) {next : β → Task α}
    (same : ∀ first second : Bench, before first.scene second.scene → view second = view first)
    (further : ∀ seen, Lockstep before (next seen) after) :
    Lockstep before (get >>= fun bench => next (view bench)) after := by
  intro first second related
  have both := further (view first) first second related
  show (next (view second) second).1 = (next (view first) first).1 ∧
    ∀ value, (next (view first) first).1 = .ok value →
      after (next (view first) first).2.scene (next (view second) second).2.scene
  rw [same first second related]
  exact both

/-- Nothing follows a fault. -/
theorem lockstep_throw_bind (fault : Fault) (next : α → Task β) :
    Lockstep before (throw fault >>= next) after :=
  fun _ _ _ => ⟨rfl, fun _ returned => by cases returned⟩

/-- Of what is left behind less may be said. -/
theorem Lockstep.mono {task : Task α} (lockstep : Lockstep before task between)
    (weaker : ∀ first second, between first second → after first second) :
    Lockstep before task after := by
  intro first second related
  obtain ⟨same, further⟩ := lockstep first second related
  exact ⟨same, fun value returned => weaker _ _ (further value returned)⟩

theorem lockstep_modify {change : Bench → Bench}
    (kept : ∀ first second : Bench, before first.scene second.scene →
      after (change first).scene (change second).scene) :
    Lockstep before (modify change : Task PUnit) after :=
  fun first second related => ⟨rfl, fun _ _ => kept first second related⟩

/-- Records are no part of the scenes. -/
theorem lockstep_log (level : Level) (text : String) : Lockstep before (log level text) before :=
  lockstep_modify fun _ _ related => related

theorem lockstep_use (given : Except Misuse α) : Lockstep before (use given) before := by
  cases given with
  | ok value => exact lockstep_pure value
  | error cause => exact lockstep_throw _

theorem lockstep_release (given : Except Fault α) : Lockstep before (release given) before := by
  cases given with
  | ok value => exact lockstep_pure value
  | error fault => exact lockstep_throw fault

end Task

open SerialCheck.Task

namespace Bench

variable {before after : Scene → Scene → Prop} {admin session : Session} {batch : Batch}
  {text : Value}

/-- A text is sent in lockstep if it is replied to alike. -/
theorem lockstep_send
    (sent : ∀ first second, before first second →
      second.reply session text = first.reply session text ∧
        after (first.send session text) (second.send session text)) :
    Lockstep before (send session text) after := by
  intro first second related
  obtain ⟨same, further⟩ := sent first.scene second.scene related
  have here := send_returns.2 ⟨(rfl : first.scene.reply session text = _), rfl⟩
  have there := send_returns.2 ⟨(rfl : second.scene.reply session text = _), rfl⟩
  unfold Returns at here there
  rw [here, there, same]
  exact ⟨rfl, fun _ _ => further⟩

theorem lockstep_execute
    (sent : ∀ first second, before first second →
      second.reply session text = first.reply session text ∧
        after (first.send session text) (second.send session text)) :
    Lockstep before (execute session text) after :=
  (lockstep_send sent).bind fun _ => lockstep_release _

/-- The session for setup statements of twin scenes is at hand. -/
theorem adminSession_apply {bench : Bench} (managed : bench.scene.Managed admin) :
    adminSession bench = (.ok admin, bench) := by
  obtain ⟨number, connection, uses, _⟩ := managed.idle
  exact adminSession_of_open managed.session uses

/-- What goes over the session for setup statements of twin scenes goes in lockstep. -/
theorem lockstep_admin {α : Type} {next : Session → Task α} {batch : Batch}
    (further : Lockstep (Scene.Twins admin batch) (next admin) after) :
    Lockstep (Scene.Twins admin batch) (adminSession >>= next) after := by
  intro first second twins
  have both := further first second twins
  rw [bind_apply, bind_apply, adminSession_apply twins.one, adminSession_apply twins.two]
  exact both

/-- A text over the session for setup statements that opens no transaction leaves twins. -/
theorem lockstep_setup {α : Type} {text : String} (opens : Command.ofText text ≠ .begin)
    {next : Outcome → Task α} {batch : Batch}
    (further : ∀ outcome, Lockstep (Scene.Twins admin batch) (next outcome) after) :
    Lockstep (Scene.Twins admin batch)
      (adminSession >>= fun session => execute session (.text text) >>= next) after :=
  lockstep_admin ((lockstep_execute fun _ _ twins => twins.manage opens).bind further)

/-- The catalog is read in lockstep. -/
theorem lockstep_updateSchema :
    Lockstep (Scene.Twins admin batch) updateSchema (Scene.Twins admin batch) := by
  have opens : Command.ofText schemaQuery ≠ .begin := by
    rw [Command.ofText_schemaQuery]
    exact nofun
  refine lockstep_setup opens fun outcome => ?_
  split
  · exact lockstep_throw _
  · refine (lockstep_use _).bind fun schema => ?_
    have known : Lockstep (Scene.Twins admin batch) (modify fun bench => { bench with schema })
        (Scene.Twins admin batch) := lockstep_modify fun _ _ twins => twins.knowing schema
    refine known.bind fun _ => ?_
    split
    · exact lockstep_throw _
    · exact lockstep_log _ _

/-- A setup statement opens no transaction. -/
theorem opens_not_of_isSetup {text : String} (setup : IsSetup text) :
    Command.ofText text ≠ .begin := by
  rcases setup with ⟨name, created⟩ | ⟨name, written⟩
  · rw [created]
    exact nofun
  · rw [written]
    exact nofun

/-- Setup statements are replayed in lockstep. -/
theorem lockstep_replayEach {queries : List Query}
    (setup : ∀ query ∈ queries, ∃ text, query.text = .text text ∧ IsSetup text) :
    Lockstep (Scene.Twins admin batch) (replayEach queries) (Scene.Twins admin batch) := by
  induction queries with
  | nil => exact lockstep_pure ()
  | cons query queries hypothesis =>
    obtain ⟨text, said, sets⟩ := setup query List.mem_cons_self
    have others := hypothesis fun other member => setup other (List.mem_cons_of_mem _ member)
    unfold replayEach
    rw [said]
    refine lockstep_setup (opens_not_of_isSetup sets) fun outcome => ?_
    split
    · exact lockstep_throw _
    · exact others

/-- The text that reads a whole table reads some table. -/
theorem exists_read_readText (name : String) :
    ∃ table, Command.ofText (readText name) = .read table := by
  have cut : readText name = "SELECT " ++ ("*" ++ " FROM " ++ name) := by
    rw [readText, ← String.append_assoc]
    rfl
  rw [cut]
  exact Command.ofText_select_from "*" name

/-- The contents of tables are read in lockstep. -/
theorem lockstep_contentsOf (names : List String) :
    Lockstep (Scene.Twins admin batch) (contentsOf names) (Scene.Twins admin batch) := by
  induction names with
  | nil => exact lockstep_pure []
  | cons name names hypothesis =>
    obtain ⟨table, reads⟩ := exists_read_readText name
    have opens : Command.ofText (readText name) ≠ .begin := by
      rw [reads]
      exact nofun
    refine lockstep_setup opens fun outcome => ?_
    split
    · exact lockstep_throw _
    · exact hypothesis.bind fun _ => lockstep_pure _

theorem lockstep_snapshot :
    Lockstep (Scene.Twins admin batch) snapshot (Scene.Twins admin batch) := by
  refine lockstep_get_bind (fun bench => bench.schema.names) ?_ lockstep_contentsOf
  exact fun first second twins => congrArg Schema.names twins.schema

end Bench

end SerialCheck

import SerialCheck.Proofs.Interleaved.Ending
import SerialCheck.Proofs.Interleaved.Exact
import SerialCheck.Proofs.Serial.Faults

/-!
# Faults of runs

A run of a plain batch on an equipped scene returns a trace or ends in a fault of a session, as long as the
clock can tell the times that the run asks for; with one exception. The rollback that follows a lock
conflict is awaited for as long as a blocked statement would be, and if it takes longer the run ends in a
timeout of its own (`run_faults`, `late_rollback_times_out`).
-/
namespace SerialCheck

open SerialCheck.Task

namespace Run

variable {batch : Batch} {bench start : Bench}

/-- A run aborts a transaction, and the rollback is not finished in time. -/
def RollsBackLate (batch : Batch) (start : Bench) : Prop :=
  ∃ transaction bench, Does batch start (.aborts transaction bench) ∧
    Overruns transaction.session bench

section

variable (numbered : batch.Numbered) (plain : batch.Plain)
  (told : ∀ doing, Does batch start doing → doing.Told)

include numbered plain told

/-- What breaks off an interleaved run is a fault of a session, or a rollback that is late. -/
theorem interleaved_fault (equipped : start.scene.Equipped) {fault : Fault} {after : Bench}
    (failed : (interleaved batch).Fails start fault after) :
    fault.IsSession ∨ fault = .timeout ∧ RollsBackLate batch start := by
  obtain ⟨_, _, result, _, takes⟩ := exists_takes numbered start
  have ran := takes.interleaved_eq numbered
  cases ran.symm.trans failed
  obtain @⟨doings, last, station, _, _, goes, ends⟩ := takes
  have tracks := goes.tracks numbered
  have does : ∀ doing ∈ last, Does batch start doing := fun doing done => ends.does goes done
  have place : ∀ doing, Does batch start doing → doing.TakesPlace batch Scene.Equipped :=
    fun doing done => done.takesPlace numbered plain.preserves_equipped equipped
  cases ends.breaks numbered (goes.sound numbered) tracks.unseen plain
    fun doing done => told doing (does doing done) with
  | lost sending _ sent failed =>
    have done : Does batch start (.sends sending) :=
      sent.elim (fun earlier => goes.does ((goes.mem_sendings numbered).1 earlier)) (does _)
    have took := place _ done
    obtain ⟨⟨text, said⟩, _⟩ := plain _ took.isOf.1 _ took.isOf.2
    rw [Sending.reply, said] at failed
    exact .inl (Scene.Equipped.reply_fault took.scene failed)
  | unanswered transaction bench _ aborts failed =>
    exact .inl (Scene.Equipped.reply_fault (place _ (does _ aborts)).scene failed)
  | late transaction bench _ aborts overruns =>
    exact .inr ⟨rfl, transaction, bench, does _ aborts, overruns⟩
  | stuck => exact .inl ⟨_, rfl⟩

/-- An interleaved run that rolls a transaction back late ends in a timeout. -/
theorem interleaved_late (late : RollsBackLate batch start) :
    ∃ after, (interleaved batch).Fails start .timeout after := by
  obtain ⟨transaction, bench, ⟨doings, station, goes, before | ⟨last, result, after, ends, done⟩⟩,
    overruns⟩ := late
  · exact absurd overruns (goes.aborts_timely before)
  · -- a path goes on only behind rollbacks that are in time, so the late one is at its end
    have tracks := goes.tracks numbered
    have timeout := ends.late numbered (goes.sound numbered) tracks.unseen plain
      (fun doing done => told doing (ends.does goes done)) done overruns
    subst timeout
    exact ⟨after, (Takes.path goes ends).interleaved_eq numbered⟩

end

/-- What a run with a looked-up batch is made of. -/
theorem run_eq (numbered : batch.Numbered) (strategy : Strategy) (reference : Option Trace)
    (order : Value) : run batch strategy reference order = (do
      prepare batch strategy
      let trace ← byStrategy batch reference order strategy
      let contents ← Bench.snapshot
      return { trace with finalState := contents } : Task Trace) := by
  simp only [run, prepare, numbered.unfit?_eq_none, bind_assoc]

/-- What breaks off a run is a fault of a session, or a rollback of an interleaved run that is late. -/
theorem run_fault (numbered : batch.Numbered) (plain : batch.Plain) {strategy : Strategy}
    {reference : Option Trace} {order : Value}
    (orderly : strategy = .serialized → Orderly batch reference order)
    (equipped : bench.scene.Equipped)
    (told : strategy = .interleaved → ∀ start, (prepare batch strategy).Returns bench () start →
      ∀ doing, Does batch start doing → doing.Told) {fault : Fault} {after : Bench}
    (failed : (run batch strategy reference order).Fails bench fault after) :
    fault.IsSession ∨ fault = .timeout ∧ strategy = .interleaved ∧
      ∃ start, (prepare batch strategy).Returns bench () start ∧ RollsBackLate batch start := by
  have prepares := Bench.upkeep_equipped.prepare batch strategy
  rw [run_eq numbered] at failed
  rcases fails_bind.1 failed with unprepared | ⟨⟨⟩, start, prepared, running⟩
  · exact .inl (prepares.fails bench fault after equipped unprepared)
  have begun : start.scene.Equipped := prepares.returns bench () start equipped prepared
  rcases fails_bind.1 running with broken | ⟨trace, between, ran, reading⟩
  · cases strategy with
    | interleaved =>
      rcases interleaved_fault numbered plain (told rfl start prepared) begun broken with
        session | ⟨timeout, late⟩
      · exact .inl session
      · exact .inr ⟨timeout, rfl, start, prepared, late⟩
    | serialized =>
      exact .inl ((safe_serial numbered plain (orderly rfl)).fails start fault after begun broken)
  · have ended : between.scene.Equipped :=
      byStrategy_preserves numbered plain.preserves_equipped begun ran
    rcases fails_bind.1 reading with unread | ⟨contents, last, _, impossible⟩
    · exact .inl (Bench.upkeep_equipped.snapshot.fails between fault after ended unread)
    · exact (fails_pure.1 impossible).elim

/-- A run that rolls a transaction back late ends in a timeout. -/
theorem run_late (numbered : batch.Numbered) (plain : batch.Plain) (reference : Option Trace)
    (order : Value) (prepared : (prepare batch .interleaved).Returns bench () start)
    (told : ∀ doing, Does batch start doing → doing.Told) (late : RollsBackLate batch start) :
    ∃ after, (run batch .interleaved reference order).Fails bench .timeout after := by
  obtain ⟨after, failed⟩ := interleaved_late numbered plain told late
  refine ⟨after, ?_⟩
  rw [run_eq numbered]
  exact fails_bind.2 (.inr ⟨(), start, prepared, Fails.bind failed _⟩)

end Run

/-- A run of a plain batch on an equipped scene whose clock can tell the times that the run asks for
returns a trace, ends in a fault of a session, or ends in a timeout. It ends in a timeout exactly if it is
interleaved, aborts a transaction because of a lock conflict, and the rollback takes longer than a
statement may. -/
theorem run_faults {batch : Batch} (numbered : batch.Numbered) (plain : batch.Plain)
    {strategy : Strategy} {reference : Option Trace} {order : Value}
    (orderly : strategy = .serialized → Run.Orderly batch reference order) {bench : Bench}
    (equipped : bench.scene.Equipped)
    (told : strategy = .interleaved → ∀ start, (Run.prepare batch strategy).Returns bench () start →
      ∀ doing, Run.Does batch start doing → doing.Told) :
    let run := Run.run batch strategy reference order
    ((∃ trace after, run.Returns bench trace after) ∨
        (∃ cause after, run.Fails bench (.session cause) after) ∨
          ∃ after, run.Fails bench .timeout after) ∧
      ((∃ after, run.Fails bench .timeout after) ↔ strategy = .interleaved ∧
        ∃ start, (Run.prepare batch strategy).Returns bench () start ∧
          Run.RollsBackLate batch start) := by
  intro run
  refine ⟨?_, ?_, ?_⟩
  · rcases returns_or_fails run bench with returned | ⟨fault, after, failed⟩
    · exact .inl returned
    · rcases Run.run_fault numbered plain orderly equipped told failed with
        ⟨cause, rfl⟩ | ⟨rfl, _⟩
      · exact .inr (.inl ⟨cause, after, failed⟩)
      · exact .inr (.inr ⟨after, failed⟩)
  · rintro ⟨after, failed⟩
    rcases Run.run_fault numbered plain orderly equipped told failed with ⟨_, impossible⟩ | ⟨_, late⟩
    · cases impossible
    · exact late
  · rintro ⟨rfl, start, prepared, late⟩
    exact Run.run_late numbered plain reference order prepared (told rfl start prepared) late

namespace Sample

/-- Under the sluggish rules the scene is equipped. -/
theorem sluggish_equipped (row rollback : Int) :
    (patient (sluggish row rollback)).scene.Equipped where
  server :=
    { proper := sluggish_proper row rollback
      describes := by
        intro rule listed _ _ _ answers
        obtain ⟨_, _, answer, _, rfl, given⟩ := eq_of_mem_sluggish listed
        rcases given with rfl | rfl <;> cases answers
      typed :=
        { tables := fun _ impossible => by cases impossible
          layouts := fun _ impossible => by cases impossible } }
  address := ⟨_, rfl⟩
  lockTimeout := fun filled => by cases filled
  setupLog := by
    intro query listed
    have same : (patient (sluggish row rollback)).scene.setupLog =
        [⟨.text "CREATE TABLE t0", .none, true⟩, ⟨.text "CREATE TABLE t1", .none, true⟩] := rfl
    simp only [same, List.mem_cons, List.not_mem_nil, or_false] at listed
    rcases listed with rfl | rfl <;> exact ⟨_, rfl⟩

/-- When a rollback takes a second longer than the statement timeout, the run ends in a timeout. -/
theorem sluggish_timeout :
    ((Run.run single .interleaved none .null).fault? (patient (sluggish 0 31))).map
        (fun fault => match fault with
          | .timeout => true
          | _ => false) = some true := by decide +kernel

/-- So that is its fault. -/
theorem sluggish_times_out :
    ∃ after, (Run.run single .interleaved none .null).Fails (patient (sluggish 0 31)) .timeout
      after := by
  obtain ⟨fault, after, failed, seen⟩ := fails_of_map sluggish_timeout
  cases fault with
  | timeout => exact ⟨after, failed⟩
  | _ => cases seen

end Sample

/-- A run whose rollback takes a second too long: it ends in a timeout, and indeed it aborts a transaction
whose rollback is late. -/
theorem run_faults_sluggish :
    (∃ after, (Run.run Sample.single .interleaved none .null).Fails
        (Sample.patient (Sample.sluggish 0 31)) .timeout after) ∧
      ∃ start, (Run.prepare Sample.single .interleaved).Returns
          (Sample.patient (Sample.sluggish 0 31)) () start ∧
        Run.RollsBackLate Sample.single start := by
  have orderly : Strategy.interleaved = .serialized → Run.Orderly Sample.single none .null :=
    fun impossible => by cases impossible
  have faults := run_faults Sample.single_numbered Sample.single_plain orderly
    (Sample.sluggish_equipped 0 31)
    (fun _ start prepared doing does =>
      ((Sample.sluggish_clock (Run.prepare_actsAs prepared)).adds doing does).told)
  exact ⟨Sample.sluggish_times_out, (faults.2.1 Sample.sluggish_times_out).2⟩

/-- With settings that are valid, a run of a numbered batch whose rollback takes a second too long ends in a
timeout, which is no fault of a session. -/
theorem late_rollback_times_out :
    (Sample.patient (Sample.sluggish 0 31)).settings.validate.toOption.isSome = true ∧
      Sample.single.Numbered ∧
      (Sample.patient (Sample.sluggish 0 31)).scene.Equipped ∧
      ∃ after, (Run.run Sample.single .interleaved none .null).Fails
        (Sample.patient (Sample.sluggish 0 31)) .timeout after :=
  ⟨by decide +kernel, Sample.single_numbered, Sample.sluggish_equipped 0 31,
    Sample.sluggish_times_out⟩

end SerialCheck

import SerialCheck.Proofs.Interleaved.Faults
import SerialCheck.Proofs.Interleaved.Path
import SerialCheck.Proofs.Preserved

/-!
# How an interleaved run breaks off

As long as the clock can tell the times that a run asks for, the run breaks off for one of four reasons
(`Run.Breaks`): a statement has a fault of its session, or the rollback behind a lock conflict has one,
or that rollback is not finished in time, or none of the parked statements is. What a run does is
done on scenes that the texts of its batch preserve (`Does.takesPlace`).
-/
namespace SerialCheck

/-- Awaiting a statement does not change the scene. -/
theorem Sending.waited_scene (sending : Sending) : sending.waited.scene = sending.after.scene := by
  rcases Task.returns_or_fails (Run.await sending.finish sending.bench.settings.blockTimeout)
    sending.after with ⟨finished, waited, returned⟩ | ⟨fault, waited, failed⟩
  · have same : sending.waited = waited := congrArg Prod.snd returned
    rw [same]
    exact (Run.await_returns returned).2
  · have same : sending.waited = waited := congrArg Prod.snd failed
    rw [same, (Run.await_fails failed).2]

/-- What is parked was sent by then, and is late. -/
theorem Sound.exists_sending {batch : Batch} {moment : Moment} (sound : Sound batch moment)
    (numbered : batch.Numbered) {parked : Parked} (waiting : parked ∈ moment.progress.parked) :
    ∃ sending ∈ moment.sendings, sending.isLate = true ∧ parked = sending.parked := by
  obtain ⟨owner, member, named, _⟩ := sound.known.parked parked waiting
  have found : batch.find? parked.id = some owner := named ▸ numbered.find?_eq member
  obtain ⟨_, _, earlier, sending, all, stands, same⟩ :=
    sound.waiting_of_found numbered waiting found
  have sent : sending ∈ moment.sendingsOf owner.id := by
    rw [all]
    exact List.mem_append_right _ List.mem_cons_self
  exact ⟨sending, (List.mem_filter.1 sent).1, stands.late, same⟩

namespace Doing

/-- The bench on which it is done. -/
def bench : Doing → Bench
  | .sends sending => sending.bench
  | .aborts _ bench => bench
  | .waits bench => bench

/-- What is sent is of the batch. -/
def IsOf (batch : Batch) : Doing → Prop
  | .sends sending =>
    sending.transaction ∈ batch ∧ sending.statement ∈ sending.transaction.statements
  | .aborts transaction _ => transaction ∈ batch
  | .waits _ => True

/-- The session over which a text is sent, and the text. -/
def message? : Doing → Option (Session × Value)
  | .sends sending => some (sending.transaction.session, sending.statement.text)
  | .aborts transaction _ => some (transaction.session, .text Bench.rollbackText)
  | .waits _ => none

/-- How long what is sent takes. -/
def delay? (doing : Doing) : Option Number :=
  doing.message?.map fun message => (doing.bench.scene.reply message.1 message.2).delay

/-- For how long it is awaited. -/
def timeout : Doing → Value
  | .sends sending => sending.bench.settings.blockTimeout
  | .aborts _ bench => bench.settings.statementTimeout
  | .waits bench => bench.settings.statementTimeout

/-- The clock can tell when what is sent is finished and when the wait for it is over. -/
structure Told (doing : Doing) : Prop where
  /-- When it is finished. -/
  finish : ∀ delay, doing.delay? = some delay →
    ∃ finish, Value.addNumbers doing.bench.now delay = .ok finish
  /-- When the wait is over. -/
  limit : Run.Tells doing.timeout doing.bench.now

/-- It is of the batch and done on a good scene. -/
structure TakesPlace (batch : Batch) (good : Scene → Prop) (doing : Doing) : Prop where
  /-- It is of the batch. -/
  isOf : doing.IsOf batch
  /-- The scene is good. -/
  scene : good doing.bench.scene

variable {batch : Batch} {good : Scene → Prop} {transaction : OpenTransaction} {outcome : Outcome}
  {bench : Bench} {sending : Sending}

/-- An abort is done where the outcome is recorded. -/
theorem eq_aborts_of_mem {doing : Doing} (done : doing ∈ recording transaction outcome bench) :
    doing = .aborts transaction bench ∧ outcome.conflicts = true := by
  unfold recording at done
  split at done
  next conflict => exact ⟨List.mem_singleton.1 done, conflict⟩
  next => cases done

/-- What is done on sending a statement is that, or an abort once it is finished. -/
theorem eq_of_mem_sending {doing : Doing} (done : doing ∈ Doing.sending sending) :
    doing = .sends sending ∨ sending.isLate = false ∧ sending.outcome.conflicts = true ∧
      doing = .aborts sending.transaction sending.waited := by
  rcases List.mem_cons.1 done with first | later
  · exact .inl first
  · split at later
    · cases later
    next prompt =>
      obtain ⟨same, conflict⟩ := eq_aborts_of_mem later
      exact .inr ⟨Bool.eq_false_iff.2 prompt, conflict, same⟩

/-- So what is done on sending a statement takes place on scenes that its text preserves. -/
theorem takesPlace_sending (preserves : batch.Preserves good) (member : sending.transaction ∈ batch)
    (own : sending.statement ∈ sending.transaction.statements) (holds : good sending.bench.scene) :
    ∀ doing ∈ Doing.sending sending, doing.TakesPlace batch good := by
  intro doing done
  rcases eq_of_mem_sending done with rfl | ⟨_, _, rfl⟩
  · exact ⟨⟨member, own⟩, holds⟩
  · refine ⟨member, ?_⟩
    show good sending.waited.scene
    rw [sending.waited_scene, Sending.after, Bench.afterSending_scene]
    exact preserves.statement _ holds _ member _ own

/-- An abort takes place where the outcome is recorded. -/
theorem takesPlace_recording (member : transaction ∈ batch) (holds : good bench.scene) :
    ∀ doing ∈ recording transaction outcome bench, doing.TakesPlace batch good := by
  intro doing done
  obtain ⟨rfl, _⟩ := eq_aborts_of_mem done
  exact ⟨member, holds⟩

end Doing

namespace Run

variable {batch : Batch} {good : Scene → Prop} {start : Bench} {station later : Station}
  {doings more last : List Doing}

/-- What is done at a step takes place on a good scene, if the scene before is good. -/
theorem Step.takesPlace (step : Step batch station more later) (preserves : batch.Preserves good)
    (holds : good station.moment.bench.scene) : ∀ doing ∈ more, doing.TakesPlace batch good := by
  cases step with
  | passes => exact fun _ impossible => by cases impossible
  | settles moment parked rest transaction outcome progress bench finished found answered recorded =>
    exact Doing.takesPlace_recording (List.mem_reverse.1 (List.mem_of_find?_eq_some found)) holds
  | sends moment first others sending progress bench runnable picked next sent =>
    obtain ⟨listed, agrees⟩ := pick_returns picked
    have member := (Progress.mem_runnable.1 (runnable ▸ listed)).1
    exact Doing.takesPlace_sending preserves member (List.mem_of_getElem? next)
      (agrees.scene ▸ holds)
  | waits moment first others bench still parked waited =>
    intro doing done
    rw [List.mem_singleton.1 done]
    exact ⟨trivial, holds⟩

/-- So is what is done at the end. -/
theorem Ends.takesPlace {result : Except Fault Trace} {after : Bench}
    (ends : Ends batch station last result after) (preserves : batch.Preserves good)
    (holds : good station.moment.bench.scene) : ∀ doing ∈ last, doing.TakesPlace batch good := by
  cases ends with
  | returns => exact fun _ impossible => by cases impossible
  | lost => exact fun _ impossible => by cases impossible
  | settles moment parked rest transaction outcome fault bench finished found answered failed =>
    exact Doing.takesPlace_recording (List.mem_reverse.1 (List.mem_of_find?_eq_some found)) holds
  | sends moment first others sending fault bench runnable picked next failed =>
    obtain ⟨listed, agrees⟩ := pick_returns picked
    have member := (Progress.mem_runnable.1 (runnable ▸ listed)).1
    exact Doing.takesPlace_sending preserves member (List.mem_of_getElem? next)
      (agrees.scene ▸ holds)
  | waits moment first others fault bench still parked failed =>
    intro doing done
    rw [List.mem_singleton.1 done]
    exact ⟨trivial, holds⟩

/-- A path keeps to scenes that the texts of the batch preserve. -/
theorem Goes.preserves (goes : Goes batch start doings station) (numbered : batch.Numbered)
    (preserves : batch.Preserves good) (holds : good start.scene) :
    good station.moment.bench.scene := (goes.tracks numbered).reached.preserves preserves holds

/-- So does all that is done on it. -/
theorem Goes.takesPlace (goes : Goes batch start doings station) (numbered : batch.Numbered)
    (preserves : batch.Preserves good) (holds : good start.scene) :
    ∀ doing ∈ doings, doing.TakesPlace batch good := by
  induction goes with
  | first => exact fun _ impossible => by cases impossible
  | next goes step hypothesis =>
    intro doing done
    rcases List.mem_append.1 done with before | new
    · exact hypothesis doing before
    · exact step.takesPlace preserves (goes.preserves numbered preserves holds) doing new

/-- Whatever a run does takes place on a scene that the texts of its batch preserve. -/
theorem Does.takesPlace {doing : Doing} (does : Does batch start doing) (numbered : batch.Numbered)
    (preserves : batch.Preserves good) (holds : good start.scene) : doing.TakesPlace batch good := by
  obtain ⟨doings, station, goes, before | ⟨last, result, after, ends, final⟩⟩ := does
  · exact goes.takesPlace numbered preserves holds doing before
  · exact ends.takesPlace preserves (goes.preserves numbered preserves holds) doing final

/-- What a run of a plain batch sends is a text of the batch or a rollback. -/
theorem Does.exists_text {doing : Doing} (does : Does batch start doing) (numbered : batch.Numbered)
    (plain : batch.Plain) {session : Session} {message : Value}
    (sent : doing.message? = some (session, message)) : ∃ text, message = .text text := by
  have place := does.takesPlace numbered (⟨fun _ _ _ _ _ _ => trivial, fun _ _ _ _ => trivial⟩ :
    batch.Preserves fun _ => True) trivial
  cases doing with
  | sends sending =>
    cases sent
    exact (plain _ place.isOf.1 _ place.isOf.2).1
  | aborts =>
    cases sent
    exact ⟨Bench.rollbackText, rfl⟩
  | waits => cases sent

/-- What is done on a path is done by the run. -/
theorem Goes.does (goes : Goes batch start doings station) {doing : Doing} (done : doing ∈ doings) :
    Does batch start doing := ⟨doings, station, goes, .inl done⟩

/-- So is what is done at its end. -/
theorem Ends.does {result : Except Fault Trace} {after : Bench}
    (ends : Ends batch station last result after) (goes : Goes batch start doings station) {doing : Doing}
    (done : doing ∈ last) : Does batch start doing :=
  ⟨doings, station, goes, .inr ⟨last, result, after, ends, done⟩⟩

/-- The statements that were sent by a station are what was done by then. -/
theorem Goes.mem_sendings (goes : Goes batch start doings station) (numbered : batch.Numbered)
    {sending : Sending} : sending ∈ station.moment.sendings ↔ .sends sending ∈ doings := by
  rw [← (goes.tracks numbered).sent, List.mem_filterMap]
  constructor
  · rintro ⟨doing, done, same⟩
    cases doing with
    | sends other =>
      cases same
      exact done
    | aborts transaction bench => cases same
    | waits bench => cases same
  · exact fun done => ⟨_, done, rfl⟩

/-- The rollbacks of a step that is taken are finished in time. -/
theorem Step.aborts_timely (step : Step batch station more later) {transaction : OpenTransaction}
    {bench : Bench} (done : .aborts transaction bench ∈ more) :
    ¬ Overruns transaction.session bench := by
  cases step with
  | passes => cases done
  | settles moment parked rest owner outcome progress after finished found answered recorded =>
    obtain ⟨same, conflict⟩ := Doing.eq_aborts_of_mem done
    cases same
    exact record_timely recorded conflict
  | sends moment first others sending progress after runnable picked next sent =>
    rcases Doing.eq_of_mem_sending done with impossible | ⟨prompt, conflict, same⟩
    · cases impossible
    · cases same
      have went := (sendStatement_waits sent).2
      rw [if_neg (Bool.eq_false_iff.1 prompt)] at went
      exact record_timely went.2.2 conflict
  | waits moment first others after still parked waited =>
    cases List.mem_singleton.1 done

/-- So are all rollbacks on a path. -/
theorem Goes.aborts_timely (goes : Goes batch start doings station) {transaction : OpenTransaction}
    {bench : Bench} (done : .aborts transaction bench ∈ doings) :
    ¬ Overruns transaction.session bench := by
  induction goes with
  | first => cases done
  | next goes step hypothesis => exact (List.mem_append.1 done).elim hypothesis step.aborts_timely

/-- Why a run breaks off at a moment: what it did last, its fault, and the bench that it leaves. -/
inductive Breaks (batch : Batch) (moment : Moment) (last : List Doing) : Fault → Bench → Prop where
  /-- A statement that was sent has a fault of its session. -/
  | lost (sending : Sending) {fault : Fault} (after : Bench)
      (sent : sending ∈ moment.sendings ∨ .sends sending ∈ last)
      (failed : sending.reply.result = .error fault) : Breaks batch moment last fault after
  /-- A rollback has one, which was finished in time. -/
  | unanswered (transaction : OpenTransaction) (bench : Bench) {fault : Fault} (after : Bench)
      (aborts : .aborts transaction bench ∈ last)
      (failed : (rollbackReply transaction.session bench).result = .error fault)
      (timely : ¬ Overruns transaction.session bench) : Breaks batch moment last fault after
  /-- A rollback is not finished in time. -/
  | late (transaction : OpenTransaction) (bench after : Bench)
      (aborts : .aborts transaction bench ∈ last)
      (overruns : Overruns transaction.session bench) : Breaks batch moment last .timeout after
  /-- All that is left is parked, and none of it is finished in time. -/
  | stuck (first : Parked) (others : List Parked) (limit : Number)
      (still : moment.progress.runnable batch = [])
      (parked : moment.progress.parked = first :: others)
      (waits : last = [.waits moment.bench])
      (told : (deadline moment.bench.settings.statementTimeout).Returns moment.bench limit
        moment.bench)
      (vain : waitsInVain first others limit moment.bench.now = true) :
      Breaks batch moment last (stuckOn moment.bench.settings.statementTimeout first others)
        { moment.bench with now := waitedUntil first others limit moment.bench.now }

/-- An outcome of a plain statement is not recorded only if it is a lock conflict and its rollback fails
while the clock can tell the time. -/
theorem breaks_of_record {moment : Moment} {transaction : OpenTransaction} {statement : Statement}
    {outcome : Outcome} {blocked : Bool} {progress : Progress} {bench after : Bench} {fault : Fault}
    (failed : (record transaction statement outcome blocked progress).Fails bench fault after)
    (clean : statement.strays = [])
    (aborts : ∀ doing ∈ Doing.recording transaction outcome bench, doing ∈ last)
    (told : ∀ doing ∈ last, doing.Told) : Breaks batch moment last fault after := by
  rcases record_fails failed with ⟨report, cause, misused, _⟩ | ⟨conflict, rollback⟩
  · rw [Statement.expects, clean] at misused
    cases misused
  · have done : Doing.aborts transaction bench ∈ last := by
      refine aborts _ ?_
      rw [Doing.recording, if_pos conflict]
      exact List.mem_singleton.2 rfl
    cases rollback with
    | untold unmeasured => exact absurd ⟨(told _ done).finish _ rfl, (told _ done).limit⟩ unmeasured
    | lost failed timely => exact .unanswered transaction bench after done failed timely
    | late overruns => exact .late transaction bench after done overruns

/-- When a rollback is not finished in time, the outcome before it is not recorded for that reason. -/
theorem late_of_record {transaction : OpenTransaction} {statement : Statement} {outcome : Outcome}
    {blocked : Bool} {progress : Progress} {bench after : Bench} {fault : Fault}
    (failed : (record transaction statement outcome blocked progress).Fails bench fault after)
    (clean : statement.strays = []) (told : (Doing.aborts transaction bench).Told)
    (overruns : Overruns transaction.session bench) : fault = .timeout := by
  rcases record_fails failed with ⟨report, cause, misused, _⟩ | ⟨_, rollback⟩
  · rw [Statement.expects, clean] at misused
    cases misused
  · cases rollback with
    | untold unmeasured => exact absurd ⟨told.finish _ rfl, told.limit⟩ unmeasured
    | lost failed timely => exact absurd overruns timely
    | late => rfl

/-- A run of a plain batch ends when a rollback is not finished in time. -/
theorem Ends.late {result : Except Fault Trace} {after : Bench}
    (ends : Ends batch station last result after) (numbered : batch.Numbered)
    (sound : Sound batch station.moment)
    (unseen : station.unseen.Sublist station.moment.progress.parked) (plain : batch.Plain)
    (told : ∀ doing ∈ last, doing.Told) {transaction : OpenTransaction} {bench : Bench}
    (done : .aborts transaction bench ∈ last) (overruns : Overruns transaction.session bench) :
    result = .error .timeout := by
  have limited := told _ done
  cases ends with
  | returns => cases done
  | lost => cases done
  | settles moment parked rest owner outcome fault bench finished found answered failed =>
    cases (Doing.eq_aborts_of_mem done).1
    obtain ⟨member, _, _, sending, _, stands, rfl⟩ :=
      sound.waiting_of_found numbered (unseen.subset List.mem_cons_self) found
    rw [late_of_record failed (plain _ member _ stands.last_mem).2 limited overruns]
  | sends moment first others sending fault bench runnable picked next failed =>
    have member := (Progress.mem_runnable.1 (runnable ▸ (pick_returns picked).1)).1
    have clean := (plain _ member _ (List.mem_of_getElem? next)).2
    rcases Doing.eq_of_mem_sending done with impossible | ⟨_, conflict, same⟩
    · cases impossible
    · cases same
      rcases sendStatement_fails failed with unmeasured | ⟨_, lost | ⟨_, unrecorded⟩⟩
      · have sends := told (.sends sending) List.mem_cons_self
        exact absurd ⟨sends.finish _ rfl, sends.limit⟩ unmeasured
      · -- without an outcome there is no conflict, and so no rollback
        have nothing : sending.outcome.conflicts = false := by
          have reply : sending.reply.result = .error fault := lost
          simp [Sending.outcome, reply, Except.toOption, Outcome.conflicts]
        rw [nothing] at conflict
        cases conflict
      · rw [late_of_record unrecorded clean limited overruns]
  | waits moment first others fault bench still parked failed =>
    cases List.mem_singleton.1 done

/-- While the clock can tell the time, a run of a plain batch ends in a fault only so. -/
theorem Ends.breaks {fault : Fault} {after : Bench}
    (ends : Ends batch station last (.error fault) after) (numbered : batch.Numbered)
    (sound : Sound batch station.moment)
    (unseen : station.unseen.Sublist station.moment.progress.parked) (plain : batch.Plain)
    (told : ∀ doing ∈ last, doing.Told) : Breaks batch station.moment last fault after := by
  cases ends with
  | lost moment parked rest fault finished failed =>
    obtain ⟨sending, sent, _, rfl⟩ :=
      sound.exists_sending numbered (unseen.subset List.mem_cons_self)
    exact .lost sending _ (.inl sent) failed
  | settles moment parked rest transaction outcome fault bench finished found answered failed =>
    have waiting := unseen.subset List.mem_cons_self
    obtain ⟨member, _, earlier, sending, _, stands, rfl⟩ :=
      sound.waiting_of_found numbered waiting found
    exact breaks_of_record failed (plain _ member _ stands.last_mem).2 (fun _ done => done) told
  | sends moment first others sending fault bench runnable picked next failed =>
    have member := (Progress.mem_runnable.1 (runnable ▸ (pick_returns picked).1)).1
    have own := List.mem_of_getElem? next
    have sends : Doing.sends sending ∈ Doing.sending sending := List.mem_cons_self
    rcases sendStatement_fails failed with unmeasured | ⟨prompt, lost | ⟨_, unrecorded⟩⟩
    · exact absurd ⟨(told _ sends).finish _ rfl, (told _ sends).limit⟩ unmeasured
    · exact .lost sending _ (.inr sends) lost
    · refine breaks_of_record unrecorded (plain _ member _ own).2 (fun doing done => ?_) told
      rw [Doing.sending, if_neg (Bool.eq_false_iff.1 prompt)]
      exact List.mem_cons_of_mem _ done
  | waits moment first others fault bench still parked failed =>
    rcases waitForParked_fails failed with untold | ⟨limit, limited, vain, rfl, rfl⟩
    · exact absurd (told _ (List.mem_singleton.2 rfl)).limit untold
    · exact .stuck first others limit still parked rfl limited vain

end Run

end SerialCheck

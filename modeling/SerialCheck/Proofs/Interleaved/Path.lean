import SerialCheck.Proofs.Fails
import SerialCheck.Proofs.Interleaved.Course

/-!
# The path of an interleaved run

An interleaved run takes one path: it looks at the parked statements one after the other and settles
those that are finished, then sends one statement or waits once, and looks again. `Run.Step` is one
such step, `Run.Goes` the path up to a station, and `Run.Ends` how the run ends there, with its trace
or in a fault. Each station has a step or an end (`Run.exists_step_or_end`), and following them is
what `Run.steps` does (`Run.Goes.steps_eq`).
-/
namespace SerialCheck

/-- What a run does at a step. -/
inductive Doing where
  /-- It sends a statement. -/
  | sends (sending : Sending)
  /-- It aborts a transaction on a bench: it sends a rollback and awaits it. -/
  | aborts (transaction : OpenTransaction) (bench : Bench)
  /-- It waits for parked statements on a bench. -/
  | waits (bench : Bench)

namespace Doing

/-- The statement that is sent. -/
def sending? : Doing → Option Sending
  | .sends sending => some sending
  | _ => none

/-- The run waits. -/
def isWait : Doing → Bool
  | .waits _ => true
  | _ => false

/-- The run does this once in a turn of its loop: it sends a statement or waits. -/
def isTurn : Doing → Bool
  | .aborts _ _ => false
  | _ => true

/-- What recording an outcome on a bench does: a lock conflict aborts the transaction. -/
def recording (transaction : OpenTransaction) (outcome : Outcome) (bench : Bench) : List Doing :=
  if outcome.conflicts then [.aborts transaction bench] else []

/-- What sending a statement does: unless it is late its outcome is recorded. -/
def sending (given : Sending) : List Doing :=
  .sends given ::
    if given.isLate then [] else recording given.transaction given.outcome given.waited

variable {transaction : OpenTransaction} {outcome : Outcome} {bench : Bench}

/-- Recording an outcome sends no statement. -/
@[simp] theorem recording_sendings :
    (recording transaction outcome bench).filterMap sending? = [] := by
  unfold recording
  split <;> rfl

/-- Recording an outcome does not wait for parked statements. -/
@[simp] theorem recording_waits : (recording transaction outcome bench).countP isWait = 0 := by
  unfold recording
  split <;> rfl

/-- Recording an outcome takes no turn. -/
@[simp] theorem recording_turns : (recording transaction outcome bench).countP isTurn = 0 := by
  unfold recording
  split <;> rfl

variable {given : Sending}

/-- Sending a statement sends that one. -/
@[simp] theorem sending_sendings : (sending given).filterMap sending? = [given] := by
  unfold sending
  split <;> simp [sending?]

/-- Sending a statement is no wait for parked statements. -/
@[simp] theorem sending_waits : (sending given).countP isWait = 0 := by
  unfold sending
  split <;> simp [isWait]

/-- Sending a statement takes one turn. -/
@[simp] theorem sending_turns : (sending given).countP isTurn = 1 := by
  unfold sending
  split <;> simp [List.countP_cons, isTurn]

/-- A turn is a statement that is sent or a wait. -/
theorem turns_eq (doings : List Doing) :
    doings.countP isTurn = (doings.filterMap sending?).length + doings.countP isWait := by
  induction doings with
  | nil => rfl
  | cons doing rest hypothesis =>
    cases doing <;>
      simp [List.countP_cons, List.filterMap_cons, isTurn, isWait, sending?, hypothesis] <;> omega

end Doing

/-- A place inside the loop of an interleaved run. -/
structure Station where
  /-- The moment. -/
  moment : Moment
  /-- The parked statements that are still to be looked at in this turn. -/
  unseen : List Parked

/-- The station at which a run begins. -/
def Station.first (bench : Bench) : Station := ⟨.first bench, []⟩

namespace Run

variable {batch : Batch} {start : Bench}

/-- The next station, and what is done on the way to it. -/
inductive Step (batch : Batch) : Station → List Doing → Station → Prop where
  /-- A parked statement that is not finished is passed over. -/
  | passes (moment : Moment) (parked : Parked) (rest : List Parked)
      (unfinished : parked.finish.le moment.bench.now = false) :
      Step batch ⟨moment, parked :: rest⟩ [] ⟨moment, rest⟩
  /-- A parked statement that is finished is recorded. -/
  | settles (moment : Moment) (parked : Parked) (rest : List Parked)
      (transaction : OpenTransaction) (outcome : Outcome) (progress : Progress) (bench : Bench)
      (finished : parked.finish.le moment.bench.now = true)
      (found : batch.find? parked.id = some transaction)
      (answered : parked.result = .ok outcome)
      (recorded : (record transaction parked.statement outcome true
        (moment.progress.unpark parked.id)).Returns moment.bench progress bench) :
      Step batch ⟨moment, parked :: rest⟩ (Doing.recording transaction outcome moment.bench)
        ⟨⟨progress, bench, moment.sendings⟩, rest⟩
  /-- When all were looked at, the next statement of a transaction that can continue is sent. -/
  | sends (moment : Moment) (first : OpenTransaction) (others : Batch) (sending : Sending)
      (progress : Progress) (bench : Bench)
      (runnable : moment.progress.runnable batch = first :: others)
      (picked : (pick first others).Returns moment.bench sending.transaction sending.bench)
      (next : sending.transaction.statements[moment.progress.sent sending.transaction.id]? =
        some sending.statement)
      (sent : (sendStatement sending.transaction sending.statement moment.progress).Returns
        sending.bench progress bench) :
      Step batch ⟨moment, []⟩ (Doing.sending sending)
        ⟨⟨progress, bench, moment.sendings ++ [sending]⟩, progress.parked⟩
  /-- If none can continue, the parked statements are waited for. -/
  | waits (moment : Moment) (first : Parked) (others : List Parked) (bench : Bench)
      (still : moment.progress.runnable batch = [])
      (parked : moment.progress.parked = first :: others)
      (waited : (waitForParked first others).Returns moment.bench () bench) :
      Step batch ⟨moment, []⟩ [.waits moment.bench]
        ⟨⟨moment.progress, bench, moment.sendings⟩, first :: others⟩

/-- The stations that a run which begins on a bench comes to, and what it has done by then. -/
inductive Goes (batch : Batch) (start : Bench) : List Doing → Station → Prop where
  /-- The first one. -/
  | first : Goes batch start [] (.first start)
  /-- The one after another one. -/
  | next {doings more : List Doing} {station after : Station} (goes : Goes batch start doings station)
      (step : Step batch station more after) : Goes batch start (doings ++ more) after

/-- How a run ends at a station: what it does last, its trace or its fault, and the bench that it
leaves. -/
inductive Ends (batch : Batch) : Station → List Doing → Except Fault Trace → Bench → Prop where
  /-- Nothing is left. -/
  | returns (moment : Moment) (final : moment.Final batch) :
      Ends batch ⟨moment, []⟩ [] (.ok moment.progress.trace) moment.bench
  /-- A parked statement that is finished came to a fault. -/
  | lost (moment : Moment) (parked : Parked) (rest : List Parked) (fault : Fault)
      (finished : parked.finish.le moment.bench.now = true) (failed : parked.result = .error fault) :
      Ends batch ⟨moment, parked :: rest⟩ [] (.error fault) moment.bench
  /-- It has an outcome that cannot be recorded. -/
  | settles (moment : Moment) (parked : Parked) (rest : List Parked)
      (transaction : OpenTransaction) (outcome : Outcome) (fault : Fault) (bench : Bench)
      (finished : parked.finish.le moment.bench.now = true)
      (found : batch.find? parked.id = some transaction)
      (answered : parked.result = .ok outcome)
      (failed : (record transaction parked.statement outcome true
        (moment.progress.unpark parked.id)).Fails moment.bench fault bench) :
      Ends batch ⟨moment, parked :: rest⟩ (Doing.recording transaction outcome moment.bench)
        (.error fault) bench
  /-- A statement is sent in vain. -/
  | sends (moment : Moment) (first : OpenTransaction) (others : Batch) (sending : Sending)
      (fault : Fault) (bench : Bench)
      (runnable : moment.progress.runnable batch = first :: others)
      (picked : (pick first others).Returns moment.bench sending.transaction sending.bench)
      (next : sending.transaction.statements[moment.progress.sent sending.transaction.id]? =
        some sending.statement)
      (failed : (sendStatement sending.transaction sending.statement moment.progress).Fails
        sending.bench fault bench) :
      Ends batch ⟨moment, []⟩ (Doing.sending sending) (.error fault) bench
  /-- The parked statements are waited for in vain. -/
  | waits (moment : Moment) (first : Parked) (others : List Parked) (fault : Fault) (bench : Bench)
      (still : moment.progress.runnable batch = [])
      (parked : moment.progress.parked = first :: others)
      (failed : (waitForParked first others).Fails moment.bench fault bench) :
      Ends batch ⟨moment, []⟩ [.waits moment.bench] (.error fault) bench

/-- The run does this at some time. -/
def Does (batch : Batch) (start : Bench) (doing : Doing) : Prop :=
  ∃ doings station, Goes batch start doings station ∧
    (doing ∈ doings ∨ ∃ last result after, Ends batch station last result after ∧ doing ∈ last)

/-- The whole path of a run: all that it does, how often its loop is turned, and how it ends. The
last turn is the one in which it ends. -/
inductive Takes (batch : Batch) (start : Bench) :
    List Doing → Nat → Except Fault Trace → Bench → Prop where
  /-- It goes to a station and ends there. -/
  | path {before last : List Doing} {station : Station} {result : Except Fault Trace} {after : Bench}
      (goes : Goes batch start before station) (ends : Ends batch station last result after) :
      Takes batch start (before ++ last) (before.countP Doing.isTurn + 1) result after

section

variable {station after : Station} {doings more : List Doing}

/-- Every station holds what a run can come to, and has only parked statements to look at. -/
structure Tracks (batch : Batch) (start : Bench) (doings : List Doing) (station : Station) : Prop where
  /-- The moment can be reached. -/
  reached : Reached batch start station.moment
  /-- What is still to be looked at is parked. -/
  unseen : station.unseen.Sublist station.moment.progress.parked
  /-- The sent statements are those of the moment. -/
  sent : doings.filterMap Doing.sending? = station.moment.sendings

/-- A step leads to what can come right after. -/
theorem Tracks.next (tracks : Tracks batch start doings station) (numbered : batch.Numbered)
    (step : Step batch station more after) : Tracks batch start (doings ++ more) after := by
  obtain ⟨reached, unseen, sent⟩ := tracks
  cases step with
  | passes moment parked rest unfinished =>
    exact ⟨reached, (List.sublist_cons_self _ _).trans unseen, by simpa using sent⟩
  | settles moment parked rest transaction outcome progress bench finished found answered recorded =>
    refine ⟨.next reached (.settle parked transaction outcome progress bench
      (unseen.subset List.mem_cons_self) finished found answered recorded), ?_, by simpa using sent⟩
    rw [(record_returns recorded).1]
    exact unseen_account (Sound.of_reached numbered reached) unseen transaction outcome
  | sends moment first others sending progress bench runnable picked next returned =>
    exact ⟨.next reached (.send first others _ _ _ progress bench runnable picked next returned),
      List.Sublist.refl _, by simpa using sent⟩
  | waits moment first others bench still parked waited =>
    refine ⟨.next reached (.wait first others bench parked still waited), ?_,
      by simpa [List.filterMap_cons, Doing.sending?] using sent⟩
    rw [← parked]

/-- So every station of a path is about a moment that can be reached. -/
theorem Goes.tracks (goes : Goes batch start doings station) (numbered : batch.Numbered) :
    Tracks batch start doings station := by
  induction goes with
  | first => exact ⟨.first, List.Sublist.refl _, rfl⟩
  | next goes step tracks => exact tracks.next numbered step

/-- So its moment is sound. -/
theorem Goes.sound (goes : Goes batch start doings station) (numbered : batch.Numbered) :
    Sound batch station.moment := Sound.of_reached numbered (goes.tracks numbered).reached

/-- A choice does not fail. -/
theorem not_pick_fails {first : OpenTransaction} {others : Batch} {bench after : Bench}
    {fault : Fault} : ¬ (pick first others).Fails bench fault after := by
  intro failed
  unfold pick at failed
  rw [Task.fails_get_bind] at failed
  split at failed
  · exact (Task.fails_draw.1 failed).elim
  · simp only [Task.fails_bind, Task.fails_set, Task.fails_pure, and_false, exists_false,
      or_self] at failed

/-- At every station the run goes on or ends. -/
theorem exists_step_or_end (goes : Goes batch start doings station) (numbered : batch.Numbered) :
    (∃ more after, Step batch station more after) ∨
      ∃ last result after, Ends batch station last result after := by
  obtain ⟨reached, unseen, _⟩ := goes.tracks numbered
  have sound := goes.sound numbered
  obtain ⟨moment, list⟩ := station
  cases list with
  | cons parked rest =>
    cases finished : parked.finish.le moment.bench.now with
    | false => exact .inl ⟨_, _, .passes moment parked rest finished⟩
    | true =>
      obtain ⟨owner, member, named, _⟩ :=
        sound.known.parked parked (unseen.subset List.mem_cons_self)
      have found : batch.find? parked.id = some owner := named ▸ numbered.find?_eq member
      cases answered : parked.result with
      | error fault => exact .inr ⟨_, _, _, .lost moment parked rest fault finished answered⟩
      | ok outcome =>
        rcases Task.returns_or_fails (record owner parked.statement outcome true
          (moment.progress.unpark parked.id)) moment.bench with
          ⟨progress, bench, recorded⟩ | ⟨fault, bench, failed⟩
        · exact .inl ⟨_, _,
            .settles moment parked rest owner outcome progress bench finished found answered recorded⟩
        · exact .inr ⟨_, _, _,
            .settles moment parked rest owner outcome fault bench finished found answered failed⟩
  | nil =>
    cases runnable : moment.progress.runnable batch with
    | cons first others =>
      rcases Task.returns_or_fails (pick first others) moment.bench with
        ⟨transaction, chosen, picked⟩ | ⟨fault, bench, failed⟩
      · obtain ⟨statement, next⟩ := exists_next runnable (pick_returns picked).1
        rcases Task.returns_or_fails (sendStatement transaction statement moment.progress) chosen with
          ⟨progress, bench, sent⟩ | ⟨fault, bench, failed⟩
        · exact .inl ⟨_, _, .sends moment first others ⟨transaction, statement, chosen⟩ progress bench
            runnable picked next sent⟩
        · exact .inr ⟨_, _, _, .sends moment first others ⟨transaction, statement, chosen⟩ fault bench
            runnable picked next failed⟩
      · exact (not_pick_fails failed).elim
    | nil =>
      cases parked : moment.progress.parked with
      | nil => exact .inr ⟨_, _, _, .returns moment ⟨runnable, parked⟩⟩
      | cons first others =>
        rcases Task.returns_or_fails (waitForParked first others) moment.bench with
          ⟨⟨⟩, bench, waited⟩ | ⟨fault, bench, failed⟩
        · exact .inl ⟨_, _, .waits moment first others bench runnable parked waited⟩
        · exact .inr ⟨_, _, _, .waits moment first others fault bench runnable parked failed⟩

end

/-- What a turn does when it has looked at all parked statements, and at most the given number of
further turns. -/
def act (batch : Batch) (count : Nat) (progress : Progress) : Task Trace :=
  match progress.runnable batch, progress.parked with
  | first :: others, _ => do steps batch count (← sendNext (← pick first others) progress)
  | [], first :: others => do
    waitForParked first others
    steps batch count progress
  | [], [] => return progress.trace

/-- What is left of a turn of the loop, and at most the given number of further turns. -/
def resume (batch : Batch) (count : Nat) (unseen : List Parked) (progress : Progress) :
    Task Trace := do
  act batch count (← settle batch unseen progress)

/-- A turn begins with all parked statements unseen. -/
theorem steps_succ (count : Nat) (progress : Progress) :
    steps batch (count + 1) progress = resume batch count progress.parked progress := rfl

end Run

/-- What a run comes to from a station on, if it may take the given number of further turns. -/
def Station.outcome (batch : Batch) (count : Nat) (station : Station) : Except Fault Trace × Bench :=
  Run.resume batch count station.unseen station.moment.progress station.moment.bench

namespace Run

section

variable {batch : Batch} {start after : Bench} {station later : Station} {doings more : List Doing}

/-- A parked statement that is not finished is passed over. -/
theorem settle_unfinished {parked : Parked} (rest : List Parked) (progress : Progress)
    {bench : Bench} (unfinished : parked.finish.le bench.now = false) :
    settle batch (parked :: rest) progress bench = settle batch rest progress bench := by
  rw [settle, (Task.returns_get.2 ⟨rfl, rfl⟩ : (get : Task Bench).Returns bench bench bench).bind_apply,
    unfinished]
  rfl

/-- A parked statement that is finished is recorded for its transaction, if it has an outcome. -/
theorem settle_finished {parked : Parked} (rest : List Parked) (progress : Progress) {bench : Bench}
    {transaction : OpenTransaction} (finished : parked.finish.le bench.now = true)
    (found : (member batch parked.id).Returns bench transaction bench) :
    settle batch (parked :: rest) progress bench =
      (do
        let outcome ← Task.release parked.result
        settle batch rest (← record transaction parked.statement outcome true
          (progress.unpark parked.id)) : Task Progress) bench := by
  rw [settle, (Task.returns_get.2 ⟨rfl, rfl⟩ : (get : Task Bench).Returns bench bench bench).bind_apply,
    if_pos finished, found.bind_apply]
  rfl

/-- The transaction of a parked statement is looked up. -/
theorem member_of_parked {moment : Moment} (sound : Sound batch moment) (numbered : batch.Numbered)
    {parked : Parked} (waiting : parked ∈ moment.progress.parked) {transaction : OpenTransaction}
    (found : batch.find? parked.id = some transaction) (bench : Bench) :
    (member batch parked.id).Returns bench transaction bench := by
  have whole := sound.known.parked_whole numbered parked waiting
  simp only [member, whole.unfit?, found]
  exact Task.returns_pure.2 ⟨rfl, rfl⟩

/-- Settling goes on behind a parked statement that is recorded. -/
theorem settle_recorded {moment : Moment} (sound : Sound batch moment) (numbered : batch.Numbered)
    {parked : Parked} {rest : List Parked} (waiting : parked ∈ moment.progress.parked)
    {transaction : OpenTransaction} {outcome : Outcome}
    (finished : parked.finish.le moment.bench.now = true)
    (found : batch.find? parked.id = some transaction) (answered : parked.result = .ok outcome) :
    settle batch (parked :: rest) moment.progress moment.bench =
      (record transaction parked.statement outcome true (moment.progress.unpark parked.id) >>=
        settle batch rest) moment.bench := by
  rw [settle_finished rest moment.progress finished
    (member_of_parked sound numbered waiting found moment.bench), answered,
    (Task.returns_release.2 ⟨rfl, rfl⟩ :
      (Task.release (.ok outcome)).Returns moment.bench outcome moment.bench).bind_apply]

/-- What a turn does after settling. -/
theorem resume_eq {count : Nat} {unseen rest : List Parked} {progress next : Progress}
    {bench between : Bench}
    (same : settle batch unseen progress bench = settle batch rest next between) :
    resume batch count unseen progress bench = resume batch count rest next between := by
  rw [resume, resume, Task.bind_apply, Task.bind_apply, same]

/-- When all parked statements were looked at a turn acts. -/
theorem resume_nil (count : Nat) (progress : Progress) (bench : Bench) :
    resume batch count [] progress bench = act batch count progress bench := by
  have nothing : (settle batch [] progress).Returns bench progress bench :=
    Task.returns_pure.2 ⟨rfl, rfl⟩
  rw [resume, nothing.bind_apply]

/-- It sends the next statement of a transaction, or fails in that. -/
theorem act_sends {count : Nat} {progress : Progress} {bench chosen : Bench}
    {first transaction : OpenTransaction} {others : Batch} {statement : Statement}
    (runnable : progress.runnable batch = first :: others)
    (picked : (pick first others).Returns bench transaction chosen)
    (next : transaction.statements[progress.sent transaction.id]? = some statement) :
    act batch count progress bench =
      (sendStatement transaction statement progress >>= steps batch count) chosen := by
  have sending : sendNext transaction progress = sendStatement transaction statement progress := by
    rw [sendNext, next]
  simp only [act, runnable]
  rw [picked.bind_apply, sending]

/-- Or it waits for the parked ones. -/
theorem act_waits {count : Nat} {progress : Progress} {bench : Bench} {first : Parked}
    {others : List Parked} (still : progress.runnable batch = [])
    (parked : progress.parked = first :: others) :
    act batch count progress bench =
      (waitForParked first others >>= fun _ => steps batch count progress) bench := by
  simp only [act, still, parked]

/-- A step of the path does not change what the run comes to; sending and waiting take a turn. -/
theorem Step.outcome_eq (step : Step batch station more later) (numbered : batch.Numbered)
    (sound : Sound batch station.moment)
    (unseen : station.unseen.Sublist station.moment.progress.parked) (count : Nat) :
    station.outcome batch (count + more.countP Doing.isTurn) = later.outcome batch count := by
  cases step with
  | passes moment parked rest unfinished =>
    exact resume_eq (settle_unfinished rest moment.progress unfinished)
  | settles moment parked rest transaction outcome progress bench finished found answered recorded =>
    rw [Doing.recording_turns]
    refine resume_eq ?_
    rw [settle_recorded sound numbered (unseen.subset List.mem_cons_self) finished found answered,
      recorded.bind_apply]
  | sends moment first others sending progress bench runnable picked next sent =>
    rw [Doing.sending_turns]
    show resume batch (count + 1) [] moment.progress moment.bench = _
    rw [resume_nil, act_sends runnable picked next, sent.bind_apply, steps_succ]
    rfl
  | waits moment first others bench still parked waited =>
    show resume batch (count + 1) [] moment.progress moment.bench =
      resume batch count (first :: others) moment.progress bench
    rw [resume_nil, act_waits still parked, waited.bind_apply, steps_succ, parked]

/-- Without a further turn a run that would take one is cut off. -/
theorem Step.outcome_zero (step : Step batch station more later)
    (takes : more.countP Doing.isTurn ≠ 0) : (station.outcome batch 0).1 = .error .unbounded := by
  cases step with
  | passes => exact absurd rfl takes
  | settles => exact absurd Doing.recording_turns takes
  | sends moment first others sending progress bench runnable picked next sent =>
    show (resume batch 0 [] moment.progress moment.bench).1 = _
    rw [resume_nil, act_sends runnable picked next, sent.bind_apply]
    rfl
  | waits moment first others bench still parked waited =>
    show (resume batch 0 [] moment.progress moment.bench).1 = _
    rw [resume_nil, act_waits still parked, waited.bind_apply]
    rfl

/-- A run comes to its end, whatever number of further turns it may take. -/
theorem Ends.outcome_eq {last : List Doing} {result : Except Fault Trace}
    (ends : Ends batch station last result after) (numbered : batch.Numbered)
    (sound : Sound batch station.moment)
    (unseen : station.unseen.Sublist station.moment.progress.parked) (count : Nat) :
    station.outcome batch count = (result, after) := by
  cases ends with
  | returns moment final =>
    show resume batch count [] moment.progress moment.bench = _
    rw [resume_nil]
    simp only [act, final.still, final.clear]
    rfl
  | lost moment parked rest fault finished failed =>
    obtain ⟨owner, member, named, _⟩ :=
      sound.known.parked parked (unseen.subset List.mem_cons_self)
    have found : batch.find? parked.id = some owner := named ▸ numbered.find?_eq member
    have settling : (settle batch (parked :: rest) moment.progress).Fails moment.bench fault
        moment.bench := by
      unfold Task.Fails
      rw [settle_finished rest moment.progress finished (member_of_parked sound numbered
        (unseen.subset List.mem_cons_self) found moment.bench), failed]
      exact Task.Fails.bind (Task.fails_release.2 ⟨rfl, rfl⟩) _
    exact settling.bind _
  | settles moment parked rest transaction outcome fault bench finished found answered failed =>
    have settling : (settle batch (parked :: rest) moment.progress).Fails moment.bench fault
        after := by
      unfold Task.Fails
      rw [settle_recorded sound numbered (unseen.subset List.mem_cons_self) finished found answered]
      exact failed.bind _
    exact settling.bind _
  | sends moment first others sending fault bench runnable picked next failed =>
    show resume batch count [] moment.progress moment.bench = _
    rw [resume_nil, act_sends runnable picked next]
    exact failed.bind _
  | waits moment first others fault bench still parked failed =>
    show resume batch count [] moment.progress moment.bench = _
    rw [resume_nil, act_waits still parked]
    exact failed.bind _

/-- A step takes at most one turn. -/
theorem Step.turns_le (step : Step batch station more later) : more.countP Doing.isTurn ≤ 1 := by
  cases step with
  | passes => exact Nat.zero_le 1
  | settles =>
    rw [Doing.recording_turns]
    exact Nat.zero_le 1
  | sends => exact Nat.le_of_eq Doing.sending_turns
  | waits => exact Nat.le_refl 1

/-- Up to a station the loop has taken the turns of its path, and goes on from there. -/
theorem Goes.steps_eq (goes : Goes batch start doings station) (numbered : batch.Numbered)
    (count : Nat) :
    steps batch (count + doings.countP Doing.isTurn + 1) {} start = station.outcome batch count := by
  induction goes generalizing count with
  | first => rfl
  | next goes step hypothesis =>
    have tracks := goes.tracks numbered
    rw [← step.outcome_eq numbered (goes.sound numbered) tracks.unseen count, ← hypothesis,
      List.countP_append, ← Nat.add_assoc, Nat.add_right_comm count]

/-- With fewer turns it is cut off. -/
theorem Goes.steps_cut (goes : Goes batch start doings station) (numbered : batch.Numbered)
    {count : Nat} (few : count ≤ doings.countP Doing.isTurn) :
    (steps batch count {} start).1 = .error .unbounded := by
  induction goes with
  | first =>
    obtain rfl : count = 0 := Nat.le_zero.1 few
    rfl
  | @next doings more station later goes step hypothesis =>
    rw [List.countP_append] at few
    by_cases earlier : count ≤ doings.countP Doing.isTurn
    · exact hypothesis earlier
    · have most := step.turns_le
      have last : count = 0 + doings.countP Doing.isTurn + 1 := by omega
      rw [last, goes.steps_eq numbered]
      exact step.outcome_zero (by omega)

end

end Run

end SerialCheck

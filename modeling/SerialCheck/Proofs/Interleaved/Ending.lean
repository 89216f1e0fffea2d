import Mathlib.Data.List.Perm.Subperm
import Mathlib.Data.Prod.Lex
import Mathlib.Order.WellFounded
import SerialCheck.Proofs.Interleaved.Faults
import SerialCheck.Proofs.Interleaved.Path
import SerialCheck.Proofs.Interleaved.Records

/-!
# Every interleaved run ends

No statement is sent twice (`Asked.nodup`), so a run sends at most as many statements as its batch has.
Waiting parks and records nothing, but behind it a parked statement is finished, which the next turn
records before anything else happens. So each step lowers the potential of its station
(`Step.lowers`), every run takes a path to an end, and it waits at most once for each late statement
(`interleaved_ends`).
-/
namespace SerialCheck

/-- A numbered transaction has no statement twice. -/
theorem Transaction.Numbered.nodup {transaction : Transaction} (numbered : transaction.Numbered) :
    transaction.statements.Nodup := by
  rw [List.nodup_iff_getElem?_ne_getElem?]
  intro earlier later before within same
  have found := List.getElem?_eq_getElem within
  have one := (numbered.statements later _ found).2
  have other := (numbered.statements earlier _ (same.trans found)).2
  exact Nat.ne_of_lt before (Int.ofNat_inj.1 (Value.integer.inj (other.symm.trans one)))

/-- The statements were asked for in order: each transaction of the batch has sent its first ones. -/
structure Batch.Asked (batch : Batch) (sendings : List Sending) : Prop where
  /-- They are of the batch. -/
  sent : ∀ sending ∈ sendings, sending.transaction ∈ batch
  /-- Those of a transaction are its first statements in order. -/
  statements : ∀ transaction ∈ batch,
    (sendings.filter (·.transaction.id.alike transaction.id)).map Sending.statement <+:
      transaction.statements

/-- A batch has as many statements as its transactions have together. -/
theorem Batch.length_flatMap_statements (batch : Batch) :
    (batch.flatMap fun transaction => transaction.statements).length = batch.statementCount := by
  induction batch with
  | nil => rfl
  | cons transaction rest hypothesis =>
    rw [List.flatMap_cons, List.length_append, hypothesis]
    rfl

namespace Batch.Asked

variable {batch : Batch} {sendings : List Sending}

/-- A statement that was sent is one of its transaction. -/
theorem own (asked : batch.Asked sendings) {sending : Sending} (member : sending ∈ sendings) :
    sending.statement ∈ sending.transaction.statements := by
  refine (asked.statements _ (asked.sent sending member)).subset (List.mem_map.2 ⟨sending, ?_, rfl⟩)
  exact List.mem_filter.2 ⟨member, Value.alike_refl _⟩

/-- No statement is sent twice. -/
theorem nodup (asked : batch.Asked sendings) (numbered : batch.Numbered) :
    (sendings.map Sending.statement).Nodup := by
  rw [List.nodup_iff_sublist]
  intro statement twice
  obtain ⟨both, among, pair⟩ := List.sublist_map_iff.1 twice
  have mine : ∀ sending ∈ both, sending.statement = statement := by
    intro sending held
    have listed : sending.statement ∈ [statement, statement] := pair ▸ List.mem_map_of_mem held
    simpa using listed
  have length : both.length = 2 := by simpa using (congrArg List.length pair).symm
  obtain ⟨first, second, rfl⟩ := List.length_eq_two.1 length
  -- one statement belongs to one transaction, which sends its statements in order
  have member := asked.sent first (among.subset List.mem_cons_self)
  have numbered_first := numbered.each _ member
  have owned : ∀ sending ∈ [first, second],
      sending.transaction.id.alike first.transaction.id = true := by
    intro sending held
    have known := among.subset held
    have one := (numbered.each _ (asked.sent sending known)).transaction_eq (asked.own known)
    have two := numbered_first.transaction_eq (asked.own (among.subset List.mem_cons_self))
    rw [mine sending held, ← mine first List.mem_cons_self, two] at one
    rw [← one]
    exact Value.alike_refl _
  have inside := (among.filter (·.transaction.id.alike first.transaction.id)).map Sending.statement
  rw [List.filter_eq_self.2 owned, ← pair] at inside
  have within := inside.trans (asked.statements _ member).sublist
  exact (List.nodup_iff_sublist.1 numbered_first.nodup) statement within

/-- There are at most as many as the batch has statements. -/
theorem length_le (asked : batch.Asked sendings) (numbered : batch.Numbered) :
    sendings.length ≤ batch.statementCount := by
  have inside : sendings.map Sending.statement ⊆
      batch.flatMap fun transaction => transaction.statements := by
    intro statement listed
    obtain ⟨sending, member, rfl⟩ := List.mem_map.1 listed
    exact List.mem_flatMap.2 ⟨_, asked.sent sending member, asked.own member⟩
  calc sendings.length = (sendings.map Sending.statement).length := (List.length_map _).symm
    _ ≤ (batch.flatMap fun transaction => transaction.statements).length :=
      (List.subperm_of_subset (asked.nodup numbered) inside).length_le
    _ = batch.statementCount := batch.length_flatMap_statements

end Batch.Asked

namespace Standing

variable {transaction : OpenTransaction} {sendings : List Sending} {view : View}

/-- However a transaction stands, it has sent its first statements. -/
theorem begun (standing : Standing transaction sendings view) : Begun transaction sendings view := by
  cases standing with
  | going stands => exact stands.toBegun
  | waiting earlier last all stands => exact all ▸ stands.toBegun
  | aborted earlier last all stands => exact all ▸ stands.toBegun

end Standing

namespace Sound

variable {batch : Batch} {moment : Moment}

/-- What was sent by a moment was asked for in order. -/
theorem asked (sound : Sound batch moment) : batch.Asked moment.sendings where
  sent := sound.sent
  statements := fun transaction member => (sound.standing transaction member).begun.statements

/-- So is the statement that is sent next. -/
theorem asked_next (sound : Sound batch moment) (numbered : batch.Numbered) {sending : Sending}
    (runnable : sending.transaction ∈ moment.progress.runnable batch)
    (next : sending.transaction.statements[moment.progress.sent sending.transaction.id]? =
      some sending.statement) : batch.Asked (moment.sendings ++ [sending]) := by
  obtain ⟨member, free⟩ := Progress.mem_runnable.1 runnable
  obtain ⟨nothing, left⟩ := Progress.canContinue_iff.1 free
  have going := (sound.standing _ member).going_of_canContinue nothing left
  have pending : Pending sending.transaction (moment.sendingsOf sending.transaction.id) sending _ :=
    going.pending_noteSent next
  refine ⟨?_, ?_⟩
  · intro other held
    rcases List.mem_append.1 held with earlier | new
    · exact sound.sent other earlier
    · rw [List.mem_singleton.1 new]
      exact member
  · intro other inside
    by_cases same : sending.transaction = other
    · subst same
      have all : (moment.sendings ++ [sending]).filter
          (·.transaction.id.alike sending.transaction.id) =
            moment.sendingsOf sending.transaction.id ++ [sending] := by
        simp [Moment.sendingsOf, List.filter_append, Value.alike_refl]
      rw [all]
      exact pending.statements
    · have apart : sending.transaction.id.alike other.id = false :=
        Bool.eq_false_iff.2 fun alike => same ((numbered.alike_iff member inside).1 alike)
      have all : (moment.sendings ++ [sending]).filter (·.transaction.id.alike other.id) =
          moment.sendings.filter (·.transaction.id.alike other.id) := by
        simp [List.filter_append, apart]
      rw [all]
      exact sound.asked.statements other inside

end Sound

namespace Run

variable {batch : Batch} {start : Bench} {station after : Station} {doings more : List Doing}

/-- A settled statement is no longer parked. -/
theorem length_parked_account {progress : Progress} {parked : Parked}
    (waiting : parked ∈ progress.parked) (transaction : OpenTransaction) (outcome : Outcome) :
    ((progress.unpark parked.id).account transaction parked.statement outcome true).parked.length <
      progress.parked.length := by
  rw [Progress.account_parked]
  exact List.length_filter_lt_length_iff_exists.2
    ⟨parked, waiting, by simp [Value.alike_refl]⟩

/-- A statement that is sent is parked if it is late, and else leaves what is parked. -/
theorem length_parked_sent {sending : Sending} {progress result : Progress} {bench : Bench}
    (sent : (sendStatement sending.transaction sending.statement progress).Returns sending.bench
      result bench) :
    result.parked.length = progress.parked.length + if sending.isLate then 1 else 0 := by
  have noted : (progress.noteSent sending.transaction sending.statement).parked =
      progress.parked := rfl
  obtain ⟨_, went⟩ := sendStatement_waits sent
  by_cases late : sending.isLate = true
  · rw [if_pos late] at went ⊢
    rw [went.2, Progress.park, List.length_append, noted]
    rfl
  · rw [if_neg late] at went ⊢
    rw [(record_returns went.2.2).1, Progress.account_parked, noted]
    rfl

/-- Behind a wait that returns one of the parked statements is finished. -/
theorem waitForParked_finishes {first : Parked} {others : List Parked} {bench after : Bench}
    (returned : (waitForParked first others).Returns bench () after) :
    (first :: others).any (·.finish.le after.now) = true := by
  obtain ⟨limit, _, timely, rfl⟩ := waitForParked_returns_iff.1 returned
  simp only [waitsInVain, Bool.or_eq_false_iff, Bool.not_eq_false'] at timely
  exact timely.2

end Run

/-- One of the parked statements that are still to be looked at is finished. -/
def Station.isRipe (station : Station) : Bool := station.unseen.any (·.finish.le station.moment.bench.now)

/-- What is left of a run at a station: statements to be sent or settled; then whether one will be
settled in this turn; then how many are still to be looked at. -/
def Station.potential (batch : Batch) (station : Station) : ℕ ×ₗ ℕ ×ₗ ℕ :=
  toLex (2 * (batch.statementCount - station.moment.sendings.length) +
      station.moment.progress.parked.length,
    toLex (if station.isRipe then 0 else 1, station.unseen.length))

namespace Run

variable {batch : Batch} {start : Bench} {station after : Station} {doings more : List Doing}

/-- A step lowers the potential. -/
theorem Step.lowers (step : Step batch station more after) (goes : Goes batch start doings station)
    (numbered : batch.Numbered) : after.potential batch < station.potential batch := by
  have unseen := (goes.tracks numbered).unseen
  have fewer := ((goes.next step).sound numbered).asked.length_le numbered
  simp only [Station.potential, Prod.Lex.toLex_lt_toLex]
  cases step with
  | passes moment parked rest unfinished =>
    -- the statement that is passed was not the ripe one
    refine .inr ⟨rfl, .inr ⟨?_, Nat.lt_succ_self _⟩⟩
    simp [Station.isRipe, unfinished]
  | settles moment parked rest transaction outcome progress bench finished found answered recorded =>
    have less := length_parked_account (unseen.subset List.mem_cons_self) transaction outcome
    rw [← (record_returns recorded).1] at less
    exact .inl (Nat.add_lt_add_left less _)
  | sends moment first others sending progress bench runnable picked next sent =>
    have parked := length_parked_sent sent
    have most : (if sending.isLate then 1 else 0) ≤ 1 := by split <;> omega
    simp only [List.length_append, List.length_singleton] at fewer ⊢
    omega
  | waits moment first others bench still parked waited =>
    -- nothing is settled yet, but what was waited for is ripe now
    refine .inr ⟨rfl, .inl ?_⟩
    have ripe := waitForParked_finishes waited
    simp [Station.isRipe, ripe]

/-- So every run comes to an end. -/
theorem Goes.exists_end (goes : Goes batch start doings station) (numbered : batch.Numbered) :
    ∃ doings turns result after, Takes batch start doings turns result after := by
  induction lower : station.potential batch using WellFoundedLT.induction generalizing station doings with
  | ind potential hypothesis =>
    rcases exists_step_or_end goes numbered with ⟨more, after, step⟩ | ⟨last, result, after, ends⟩
    · exact hypothesis _ (lower ▸ step.lowers goes numbered) (goes.next step) rfl
    · exact ⟨_, _, _, _, .path goes ends⟩

/-- Each wait so far was for a late statement of its own: one that was settled since, or one that will
be in this turn. -/
def Patient (doings : List Doing) (station : Station) : Prop :=
  doings.countP Doing.isWait + station.moment.progress.parked.length ≤
      station.moment.sendings.countP Sending.isLate ∨
    doings.countP Doing.isWait + station.moment.progress.parked.length ≤
        station.moment.sendings.countP Sending.isLate + 1 ∧ station.isRipe = true

/-- When all parked statements were looked at, none of the waits is still owed one. -/
theorem Patient.settled {moment : Moment} (patient : Patient doings ⟨moment, []⟩) :
    doings.countP Doing.isWait + moment.progress.parked.length ≤
      moment.sendings.countP Sending.isLate := by
  rcases patient with even | ⟨_, ripe⟩
  · exact even
  · cases ripe

/-- There were at most as many waits as late statements. -/
theorem Patient.waits_le (patient : Patient doings station)
    (unseen : station.unseen.Sublist station.moment.progress.parked) :
    doings.countP Doing.isWait ≤ station.moment.sendings.countP Sending.isLate := by
  rcases patient with even | ⟨odd, ripe⟩
  · omega
  · obtain ⟨parked, held, _⟩ := List.any_eq_true.1 ripe
    have some := List.length_pos_of_mem (unseen.subset held)
    omega

/-- A step keeps that. -/
theorem Patient.next (patient : Patient doings station) (step : Step batch station more after)
    (unseen : station.unseen.Sublist station.moment.progress.parked) :
    Patient (doings ++ more) after := by
  cases step with
  | passes moment parked rest unfinished =>
    rw [List.append_nil]
    refine patient.imp id fun ⟨odd, ripe⟩ => ⟨odd, ?_⟩
    simpa [Station.isRipe, unfinished] using ripe
  | settles moment parked rest transaction outcome progress bench finished found answered recorded =>
    have less : progress.parked.length < moment.progress.parked.length := by
      rw [(record_returns recorded).1]
      exact length_parked_account (unseen.subset List.mem_cons_self) transaction outcome
    unfold Patient at patient ⊢
    rw [List.countP_append, Doing.recording_waits]
    -- a wait that was still owed a statement has it now
    left
    simp only at patient ⊢
    omega
  | sends moment first others sending progress bench runnable picked next sent =>
    have even := patient.settled
    have parked := length_parked_sent sent
    unfold Patient
    rw [List.countP_append, Doing.sending_waits]
    left
    simp only [List.countP_append, List.countP_singleton]
    omega
  | waits moment first others bench still parked waited =>
    have even := patient.settled
    refine .inr ⟨?_, waitForParked_finishes waited⟩
    simp only [List.countP_append, List.countP_singleton, Doing.isWait, ↓reduceIte]
    omega

/-- So it holds at every station. -/
theorem Goes.patient (goes : Goes batch start doings station) (numbered : batch.Numbered) :
    Patient doings station := by
  induction goes with
  | first => exact .inl (Nat.le_refl _)
  | next goes step patient => exact patient.next step (goes.tracks numbered).unseen

variable {turns : Nat} {result : Except Fault Trace} {later : Bench}

/-- At most one turn is taken at the end. -/
theorem Ends.turns_le (ends : Ends batch station more result later) :
    more.countP Doing.isTurn ≤ 1 := by
  cases ends with
  | returns => exact Nat.zero_le 1
  | lost => exact Nat.zero_le 1
  | settles =>
    rw [Doing.recording_turns]
    exact Nat.zero_le 1
  | sends => exact Nat.le_of_eq Doing.sending_turns
  | waits => exact Nat.le_refl 1

namespace Takes

/-- Everything that is sent on a path is asked for in order. -/
theorem asked (takes : Takes batch start doings turns result later) (numbered : batch.Numbered) :
    batch.Asked (doings.filterMap Doing.sending?) := by
  obtain ⟨goes, ends⟩ := takes
  have sound := goes.sound numbered
  rw [List.filterMap_append, (goes.tracks numbered).sent]
  cases ends with
  | returns moment final => simpa using sound.asked
  | lost moment parked rest fault finished failed => simpa using sound.asked
  | settles moment parked rest transaction outcome fault bench finished found answered failed =>
    simpa using sound.asked
  | sends moment first others sending fault bench runnable picked next failed =>
    rw [Doing.sending_sendings]
    exact sound.asked_next numbered (runnable ▸ (pick_returns picked).1) next
  | waits moment first others fault bench still parked failed =>
    simpa [List.filterMap_cons, Doing.sending?] using sound.asked

/-- There are at most as many waits as late statements. -/
theorem waits_le (takes : Takes batch start doings turns result later)
    (numbered : batch.Numbered) :
    doings.countP Doing.isWait ≤ (doings.filterMap Doing.sending?).countP Sending.isLate := by
  obtain ⟨goes, ends⟩ := takes
  have patient := goes.patient numbered
  have tracks := goes.tracks numbered
  have before := patient.waits_le tracks.unseen
  rw [List.filterMap_append, List.countP_append, List.countP_append, tracks.sent]
  cases ends with
  | returns moment final => simpa using before
  | lost moment parked rest fault finished failed => simpa using before
  | settles moment parked rest transaction outcome fault bench finished found answered failed =>
    simpa using before
  | sends moment first others sending fault bench runnable picked next failed =>
    rw [Doing.sending_waits]
    exact Nat.le_add_right_of_le before
  | waits moment first others fault bench still parked failed =>
    have even := patient.settled
    rw [parked, List.length_cons] at even
    simp only [List.countP_singleton, Doing.isWait, ↓reduceIte]
    omega

/-- Each turn but the last one sends a statement or waits, and none does more than that. -/
theorem turns_bounds (takes : Takes batch start doings turns result later) :
    (doings.filterMap Doing.sending?).length + doings.countP Doing.isWait ≤ turns ∧
      turns ≤ (doings.filterMap Doing.sending?).length + doings.countP Doing.isWait + 1 := by
  rw [← Doing.turns_eq]
  obtain ⟨goes, ends⟩ := takes
  have last := ends.turns_le
  rw [List.countP_append]
  omega

/-- The loop ends in the last turn of the path, however many more it may take. -/
theorem steps_eq (takes : Takes batch start doings turns result later) (numbered : batch.Numbered)
    {count : Nat} (enough : turns ≤ count) : steps batch count {} start = (result, later) := by
  obtain @⟨before, last, station, _, _, goes, ends⟩ := takes
  have tracks := goes.tracks numbered
  obtain ⟨extra, rfl⟩ := Nat.exists_eq_add_of_le enough
  have more : before.countP Doing.isTurn + 1 + extra =
      extra + before.countP Doing.isTurn + 1 := by omega
  rw [more, goes.steps_eq numbered, ends.outcome_eq numbered (goes.sound numbered) tracks.unseen]

/-- With fewer turns it is cut off. -/
theorem steps_cut (takes : Takes batch start doings turns result later) (numbered : batch.Numbered)
    {count : Nat} (few : count < turns) : (steps batch count {} start).1 = .error .unbounded := by
  obtain ⟨goes, _⟩ := takes
  exact goes.steps_cut numbered (Nat.le_of_lt_succ few)

/-- A run may take as many turns as its path has. -/
theorem interleaved_eq (takes : Takes batch start doings turns result later)
    (numbered : batch.Numbered) : interleaved batch start = (result, later) := by
  have limited : turns ≤ stepLimit batch start.server.rules := by
    have sent := (takes.asked numbered).length_le numbered
    have waits := takes.waits_le numbered
    have late : (doings.filterMap Doing.sending?).countP Sending.isLate ≤
        (doings.filterMap Doing.sending?).length := List.countP_le_length
    have most := takes.turns_bounds.2
    calc turns ≤ 2 * batch.statementCount + 1 := by omega
      _ ≤ stepLimit batch start.server.rules :=
        Nat.le_mul_of_pos_right _ (Nat.lt_add_left _ (by decide))
  have began : (get : Task Bench).Returns start start start := Task.returns_get.2 ⟨rfl, rfl⟩
  rw [interleaved, began.bind_apply]
  exact takes.steps_eq numbered limited

end Takes

/-- Every run takes a path. -/
theorem exists_takes (numbered : batch.Numbered) (start : Bench) :
    ∃ doings turns result after, Takes batch start doings turns result after :=
  Goes.exists_end .first numbered

end Run

/-- On whatever bench, the loop of an interleaved run ends: with a trace or a fault, after a number of
turns, and with one turn less it would be cut off. Each turn but the last one sends a statement or
waits, and none does more. No statement is sent twice, and there are at most as many waits as
statements that were parked because they were late. -/
theorem interleaved_ends {batch : Batch} (numbered : batch.Numbered) (start : Bench) :
    ∃ doings turns result after, Run.Takes batch start doings turns result after ∧
      let sent := doings.filterMap Doing.sending?
      let waits := doings.countP Doing.isWait
      Run.interleaved batch start = (result, after) ∧
        (∀ count, turns ≤ count → Run.steps batch count {} start = (result, after)) ∧
        (∀ count < turns, (Run.steps batch count {} start).1 = .error .unbounded) ∧
        sent.length + waits ≤ turns ∧ turns ≤ sent.length + waits + 1 ∧
        (∀ sending ∈ sent, sending.transaction ∈ batch ∧
          sending.statement ∈ sending.transaction.statements) ∧
        (sent.map Sending.statement).Nodup ∧
        waits ≤ sent.countP Sending.isLate := by
  obtain ⟨doings, turns, result, after, takes⟩ := Run.exists_takes numbered start
  have asked := takes.asked numbered
  exact ⟨doings, turns, result, after, takes, takes.interleaved_eq numbered,
    fun count enough => takes.steps_eq numbered enough,
    fun count few => takes.steps_cut numbered few,
    takes.turns_bounds.1, takes.turns_bounds.2,
    fun sending sent => ⟨asked.sent sending sent, asked.own sent⟩,
    asked.nodup numbered, takes.waits_le numbered⟩

/-- Without the setup a run of slow statements has its loop end as well. -/
theorem Sample.slow_blocked :
    (Run.interleaved single (bench slow)).1.toOption.map
        (fun trace => trace.results.map StatementResult.blocked) =
      some [.boolean true, .boolean false, .boolean false, .boolean false] := by decide +kernel

/-- A run whose first statement is waited for takes a path to the end of its loop and returns. -/
theorem interleaved_ends_slow :
    Sample.single.Numbered ∧
      ∃ doings turns trace after,
        Run.Takes Sample.single (Sample.bench Sample.slow) doings turns (.ok trace) after ∧
          trace.results.map StatementResult.blocked =
            [.boolean true, .boolean false, .boolean false, .boolean false] ∧
          turns ≤ (doings.filterMap Doing.sending?).length + doings.countP Doing.isWait + 1 := by
  refine ⟨Sample.single_numbered, ?_⟩
  obtain ⟨trace, later, returned, seen⟩ := Task.returns_of_map Sample.slow_blocked
  obtain ⟨doings, turns, result, after, takes, ran, _, _, _, most, _⟩ :=
    interleaved_ends Sample.single_numbered (Sample.bench Sample.slow)
  cases ran.symm.trans returned
  exact ⟨doings, turns, trace, _, takes, seen, most⟩

end SerialCheck

import SerialCheck.Proofs.Setup.Ready

/-!
# What an interleaved run is told

On a calm server the statements that an interleaved run has sent so far are its turns: each was
answered as the turns before it say (`Told`), and the server has what all of them have made of the
base (`Tracked.of_reached`).
-/
namespace SerialCheck

/-- The turn in which a statement was sent. -/
def Sending.turn (sending : Sending) : Turn := ⟨sending.transaction, sending.statement⟩

/-- Each statement was answered as the turns before it say. -/
def Told (base : Database) (sendings : List Sending) : Prop :=
  ∀ earlier sending later, sendings = earlier ++ sending :: later →
    sending.reply.result =
      .ok (.ofAnswer
        (answerAt base (earlier.map Sending.turn) sending.transaction.id sending.statement.command))

namespace Told

variable {base : Database} {sendings : List Sending} {sending : Sending}

theorem nil (base : Database) : Told base [] := by
  intro earlier sending later cut
  cases earlier <;> cases cut

theorem snoc (told : Told base sendings)
    (answered : sending.reply.result = .ok (.ofAnswer (answerAt base (sendings.map Sending.turn)
      sending.transaction.id sending.statement.command))) :
    Told base (sendings ++ [sending]) := by
  intro earlier other later cut
  rcases List.eq_nil_or_concat later with rfl | ⟨front, last, rfl⟩
  · obtain ⟨rfl, same⟩ := List.append_inj' cut rfl
    cases same
    exact answered
  · have shorter : sendings ++ [sending] = (earlier ++ other :: front) ++ [last] := by
      simpa using cut
    obtain ⟨rfl, _⟩ := List.append_inj' shorter rfl
    exact told earlier other front rfl

end Told

namespace Moment

/-- A transaction is in the middle of its work: it has sent some of its statements but not all, and none
of them came to a lock conflict. -/
structure Busy (moment : Moment) (transaction : OpenTransaction) : Prop where
  /-- It has begun. -/
  begun : 0 < (moment.sendingsOf transaction.id).length
  /-- It has not come to its end. -/
  left : (moment.sendingsOf transaction.id).length < transaction.size
  /-- It has met no lock conflict. -/
  calm : ∀ sending ∈ moment.sendingsOf transaction.id, sending.outcome.conflicts = false

/-- The statements of a transaction among the turns of a moment are those that it has sent. -/
theorem statementsOf_turns (moment : Moment) (id : Value) :
    statementsOf (moment.sendings.map Sending.turn) id =
      (moment.sendingsOf id).map Sending.statement := by
  rw [statementsOf, List.filter_map, List.map_map]
  rfl

end Moment

/-- The bench of a moment has what the statements that were sent have made of the base, and they were
answered in turn. -/
structure Tracked (start : Bench) (batch : Batch) (admin : Session) (base : Database)
    (moment : Moment) : Prop where
  /-- The run is underway. -/
  underway : Underway start batch admin base (moment.sendings.map Sending.turn) moment.Busy
    moment.bench
  /-- Each statement was answered in its turn. -/
  told : Told base moment.sendings

/-- Recording an outcome keeps a run underway; with a lock conflict its transaction leaves off. -/
theorem Underway.record {start bench later : Bench} {batch : Batch} {admin : Session}
    {base : Database} {turns : List Turn} {active : OpenTransaction → Prop}
    {transaction : OpenTransaction}
    (underway : Underway start batch admin base turns active bench) (cast : batch.Cast admin)
    (member : transaction ∈ batch) {outcome : Outcome}
    (left : outcome.conflicts = true → ¬ active transaction)
    (scene : if outcome.conflicts then
        later.scene = bench.scene.send transaction.session (.text Bench.rollbackText)
      else bench.Agrees later) :
    Underway start batch admin base turns active later := by
  cases conflict : outcome.conflicts with
  | false =>
    rw [conflict] at scene
    exact underway.of_scene scene.scene
  | true =>
    rw [conflict] at scene
    refine ((underway.rollback cast member).2.mono ?_).of_scene scene
    rintro other _ active
    exact ⟨fun same => left conflict (same ▸ active), active⟩

namespace Tracked

variable {start : Bench} {batch : Batch} {admin : Session} {base : Database} {moment after : Moment}

/-- A run is tracked at its beginning. -/
theorem first (underway : Underway start batch admin base [] (fun _ => False) start) :
    Tracked start batch admin base (.first start) where
  underway := underway.mono fun _ _ busy => absurd busy.begun (Nat.lt_irrefl 0)
  told := .nil base

/-- A settled statement keeps a run tracked. -/
theorem settle (tracked : Tracked start batch admin base moment) (cast : batch.Cast admin)
    (sound : Sound batch moment) {parked : Parked} {transaction : OpenTransaction}
    {outcome : Outcome} {progress result : Progress} {bench : Bench}
    (waiting : parked ∈ moment.progress.parked)
    (found : batch.find? parked.id = some transaction) (answered : parked.result = .ok outcome)
    (recorded : (Run.record transaction parked.statement outcome true progress).Returns moment.bench
      result bench) :
    Tracked start batch admin base ⟨result, bench, moment.sendings⟩ where
  underway := by
    obtain ⟨member, _, earlier, last, all, _, held⟩ :=
      sound.waiting_of_found cast.numbered waiting found
    have reply : last.reply.result = .ok outcome := by
      rw [held] at answered
      exact answered
    have outcomes : last.outcome = outcome := by simp [Sending.outcome, reply, Except.toOption]
    have left : outcome.conflicts = true → ¬ moment.Busy transaction := by
      intro conflict busy
      have calm := busy.calm last (by rw [all]; simp)
      rw [outcomes, conflict] at calm
      cases calm
    exact (tracked.underway.record cast member left (Run.record_returns recorded).2).mono
      fun _ _ busy => ⟨busy.begun, busy.left, busy.calm⟩
  told := tracked.told

/-- The next statement of a transaction that can continue is answered in its turn. -/
theorem answered (tracked : Tracked start batch admin base moment) (cast : batch.Cast admin)
    (sound : Sound batch moment) {transaction : OpenTransaction} {statement : Statement}
    {chosen : Bench} (runnable : transaction ∈ moment.progress.runnable batch)
    (agrees : moment.bench.Agrees chosen)
    (next : transaction.statements[moment.progress.sent transaction.id]? = some statement) :
    (chosen.scene.reply transaction.session statement.text).result =
        .ok (.ofAnswer (answerAt base (moment.sendings.map Sending.turn) transaction.id
          statement.command)) ∧
      Underway start batch admin base
        (moment.sendings.map Sending.turn ++ [⟨transaction, statement⟩])
        (fun other => if other.id = transaction.id then
            (moment.sendingsOf transaction.id).length + 1 < transaction.size
          else moment.Busy other) (chosen.afterSending transaction.session statement.text) := by
  obtain ⟨member, free⟩ := Progress.mem_runnable.1 runnable
  obtain ⟨nothing, within⟩ := Progress.canContinue_iff.1 free
  have going := (sound.standing transaction member).going_of_canContinue nothing within
  have count : moment.progress.sent transaction.id =
      (moment.sendingsOf transaction.id).length := going.count
  have before : statementsOf (moment.sendings.map Sending.turn) transaction.id =
      transaction.statements.take (moment.sendingsOf transaction.id).length := by
    rw [moment.statementsOf_turns]
    simpa using List.prefix_iff_eq_take.1 going.statements
  rw [count] at next
  exact (tracked.underway.of_scene agrees.scene).send cast member next before
    fun positive => ⟨positive, (count ▸ within : _), fun one held => (going.calm one held).calm⟩

/-- A statement that is sent keeps a run tracked. -/
theorem send (tracked : Tracked start batch admin base moment) (cast : batch.Cast admin)
    (sound : Sound batch moment) {transaction : OpenTransaction} {statement : Statement}
    {chosen bench : Bench} {progress : Progress}
    (runnable : transaction ∈ moment.progress.runnable batch) (agrees : moment.bench.Agrees chosen)
    (next : transaction.statements[moment.progress.sent transaction.id]? = some statement)
    (sent : (Run.sendStatement transaction statement moment.progress).Returns chosen progress
      bench) :
    Tracked start batch admin base
      ⟨progress, bench, moment.sendings ++ [⟨transaction, statement, chosen⟩]⟩ := by
  have member := (Progress.mem_runnable.1 runnable).1
  let sending : Sending := ⟨transaction, statement, chosen⟩
  obtain ⟨answered, later⟩ := tracked.answered cast sound runnable agrees next
  have reply : sending.reply.result = .ok (.ofAnswer (answerAt base
      (moment.sendings.map Sending.turn) transaction.id statement.command)) := answered
  have told : Told base (moment.sendings ++ [sending]) := tracked.told.snoc reply
  have busy : ∀ other ∈ batch,
      (Moment.mk progress bench (moment.sendings ++ [sending])).Busy other →
        if other.id = transaction.id then
          (moment.sendingsOf transaction.id).length + 1 < transaction.size
        else moment.Busy other := by
    intro other inside works
    by_cases same : other = transaction
    · subst same
      have left := works.left
      rw [Moment.sendingsOf_append] at left
      simpa using left
    · have apart : other.id ≠ transaction.id := fun ids =>
        same (cast.numbered.eq_of_id inside member ids)
      have kept : (Moment.mk progress bench (moment.sendings ++ [sending])).sendingsOf other.id =
          moment.sendingsOf other.id :=
        Moment.sendingsOf_append_other ((cast.numbered.id_isWhole member).not_alike
          (cast.numbered.id_isWhole inside) apart.symm)
      rw [if_neg apart]
      exact ⟨kept ▸ works.begun, kept ▸ works.left, kept ▸ works.calm⟩
  refine ⟨?_, told⟩
  have turns : (moment.sendings ++ [sending]).map Sending.turn =
      moment.sendings.map Sending.turn ++ [⟨transaction, statement⟩] := by
    rw [List.map_append]
    rfl
  show Underway start batch admin base ((moment.sendings ++ [sending]).map Sending.turn) _ bench
  rw [turns]
  obtain ⟨waited, scene, went⟩ := Run.sendStatement_returns sent
  have underway := (later.mono busy).of_scene scene
  by_cases late : sending.isLate = true
  · rw [if_pos late] at went
    exact underway.of_scene went.1.scene
  · rw [if_neg late] at went
    refine underway.record cast member ?_ (Run.record_returns went.2).2
    intro conflict works
    have calm := works.calm sending (by
      rw [Moment.sendingsOf_append]
      simp)
    rw [conflict] at calm
    cases calm

/-- Each step keeps a run tracked. -/
theorem next (tracked : Tracked start batch admin base moment) (cast : batch.Cast admin)
    (sound : Sound batch moment) (step : Run.Next batch moment after) :
    Tracked start batch admin base after := by
  cases step with
  | settle parked transaction outcome progress bench waiting finished found answered recorded =>
    exact tracked.settle cast sound waiting found answered recorded
  | send first others transaction statement chosen progress bench runnable picked next sent =>
    obtain ⟨member, agrees⟩ := Run.pick_returns picked
    exact tracked.send cast sound (runnable ▸ member) agrees next sent
  | wait first others bench parked none waited =>
    refine ⟨(tracked.underway.of_scene (Run.waitForParked_returns waited)).mono ?_, tracked.told⟩
    exact fun _ _ busy => ⟨busy.begun, busy.left, busy.calm⟩

/-- Every moment that a run can come to is tracked. -/
theorem of_reached (cast : batch.Cast admin)
    (underway : Underway start batch admin base [] (fun _ => False) start)
    (reached : Run.Reached batch start moment) : Tracked start batch admin base moment := by
  induction reached with
  | first => exact first underway
  | next reached step tracked =>
    exact tracked.next cast (Sound.of_reached cast.numbered reached) step

end Tracked

end SerialCheck

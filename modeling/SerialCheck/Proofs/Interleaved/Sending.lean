import SerialCheck.Proofs.Scene

/-!
# Sending a statement

A `Sending` is a statement with the bench on which it was sent; the reply to it, and whether it
is late, follow from that. Here stands what the tasks that send a statement and record its
outcome do to a run's progress, as plain functions of the progress (`Progress.noteSent`,
`Progress.account`), and to the bench.
-/
namespace SerialCheck

namespace Run

/-- Something that finishes at the given time is not there now, nor when a timeout from now on is
over. -/
def outlasts (now finish : Number) : Value → Bool
  | .null => false
  | timeout => !finish.le now && (timeout.addTo now).toOption.any (·.lt finish)

/-- The deadline is the time with the timeout added to it. -/
theorem deadline_returns {timeout : Value} {bench after : Bench} {time : Number}
    (returned : (deadline timeout).Returns bench time after) :
    timeout.addTo bench.now = .ok time ∧ after = bench := by
  simp only [deadline, Task.returns_bind, Task.returns_get, Task.returns_use] at returned
  obtain ⟨_, _, ⟨rfl, rfl⟩, sum, _, ⟨added, rfl⟩, rest⟩ := returned
  split at rest
  · simp only [Task.returns_bind, Task.returns_throw, false_and, exists_false] at rest
  · obtain ⟨rfl, rfl⟩ := Task.returns_pure.1 rest
    exact ⟨added, rfl⟩

/-- A new time leaves the scene as it is. -/
theorem setTime_returns {now : Number} {bench after : Bench} {result : Unit} :
    (setTime now).Returns bench result after ↔ after = { bench with now } := Task.returns_modify

/-- Awaiting is told in vain exactly for what outlasts the timeout. It leaves the scene as it
is. -/
theorem await_returns {finish : Number} {timeout : Value} {bench after : Bench} {finished : Bool}
    (returned : (await finish timeout).Returns bench finished after) :
    finished = !outlasts bench.now finish timeout ∧ after.scene = bench.scene := by
  unfold await at returned
  rw [Task.returns_get_bind] at returned
  by_cases there : finish.le bench.now = true
  · rw [if_pos there] at returned
    obtain ⟨rfl, rfl⟩ := Task.returns_pure.1 returned
    refine ⟨?_, rfl⟩
    cases timeout <;> simp [outlasts, there]
  · rw [if_neg there] at returned
    split at returned
    next =>
      simp only [Task.returns_bind, setTime_returns, Task.returns_pure] at returned
      obtain ⟨_, _, rfl, rfl, rfl⟩ := returned
      exact ⟨rfl, rfl⟩
    next limited =>
      obtain ⟨limit, between, found, rest⟩ := Task.returns_bind.1 returned
      obtain ⟨added, same⟩ := deadline_returns found
      rw [same] at rest
      have judged : outlasts bench.now finish timeout = limit.lt finish := by
        cases timeout <;> simp_all [outlasts, Except.toOption]
      rw [judged]
      unfold awaitUntil at rest
      split at rest
      next passed =>
        simp only [Task.returns_bind, setTime_returns, Task.returns_pure] at rest
        obtain ⟨_, _, rfl, rfl, rfl⟩ := rest
        exact ⟨by simp [passed], rfl⟩
      next within =>
        simp only [Task.returns_bind, setTime_returns, Task.returns_pure] at rest
        obtain ⟨_, _, rfl, rfl, rfl⟩ := rest
        exact ⟨by simp [within], rfl⟩

/-- What is not awaited in vain is finished by the clock, which may have been moved to that time. -/
theorem await_finished {finish : Number} {timeout : Value} {bench after : Bench}
    (returned : (await finish timeout).Returns bench true after) :
    finish.le after.now = true ∨ after.now = finish := by
  unfold await at returned
  rw [Task.returns_get_bind] at returned
  split at returned
  next there =>
    rw [(Task.returns_pure.1 returned).2]
    exact .inl there
  next =>
    split at returned
    · simp only [Task.returns_bind, setTime_returns, Task.returns_pure] at returned
      obtain ⟨_, _, rfl, _, rfl⟩ := returned
      exact .inr rfl
    · obtain ⟨limit, between, found, rest⟩ := Task.returns_bind.1 returned
      unfold awaitUntil at rest
      split at rest <;> simp only [Task.returns_bind, setTime_returns, Task.returns_pure] at rest
      · obtain ⟨_, _, _, impossible, _⟩ := rest
        cases impossible
      · obtain ⟨_, _, rfl, _, rfl⟩ := rest
        exact .inr rfl

/-- The time at which something is finished is the present one with its delay. -/
theorem finishTime_returns {delay : Number} {bench after : Bench} {finish : Number} :
    (finishTime delay).Returns bench finish after ↔
      Value.addNumbers bench.now delay = .ok finish ∧ after = bench := by
  rw [finishTime, Task.returns_get_bind, Task.returns_use]

/-- A rollback in time is sent, awaited until it is finished, and has an outcome. -/
theorem rollbackInTime_cases {session : Session} {bench after : Bench} {result : Unit}
    (returned : (rollbackInTime session).Returns bench result after) :
    let reply := bench.scene.reply session (.text Bench.rollbackText)
    (∃ outcome, reply.result = .ok outcome) ∧
      ∃ sent finish, (bench.afterSending session (.text Bench.rollbackText)).Agrees sent ∧
        Value.addNumbers bench.now reply.delay = .ok finish ∧
          (await finish bench.settings.statementTimeout).Returns sent true after := by
  simp only [rollbackInTime, Task.returns_bind, finishTime_returns, Task.returns_get] at returned
  obtain ⟨reply, sent, began, finish, timed, ⟨added, same⟩, _, _, ⟨rfl, rfl⟩, finished, waited,
    awaited, rest⟩ := returned
  obtain ⟨rfl, agrees⟩ := Bench.sendRollback_returns began
  rw [same] at awaited
  have now : sent.now = bench.now := agrees.now
  have settings : sent.settings = bench.settings := agrees.settings
  rw [now] at added
  rw [settings] at awaited
  split at rest
  next done =>
    subst done
    simp only [Task.returns_discard, Bench.outcomeOf, Task.returns_release] at rest
    obtain ⟨outcome, answered, rfl⟩ := rest
    exact ⟨⟨outcome, answered⟩, sent, finish, agrees, added, awaited⟩
  · exact (Task.returns_throw.1 rest).elim

/-- So it changes the scene by its text. -/
theorem rollbackInTime_returns {session : Session} {bench after : Bench} {result : Unit}
    (returned : (rollbackInTime session).Returns bench result after) :
    after.scene = bench.scene.send session (.text Bench.rollbackText) := by
  obtain ⟨_, sent, _, agrees, _, awaited⟩ := rollbackInTime_cases returned
  rw [(await_returns awaited).2, agrees.scene, Bench.afterSending_scene]

/-- A statement whose error is not expected leaves a record at most. -/
theorem reportUnexpected_returns {statement : Statement} {outcome : Outcome}
    {bench after : Bench} {result : Unit}
    (returned : (reportUnexpected statement outcome).Returns bench result after) :
    bench.Agrees after := by
  unfold reportUnexpected at returned
  split at returned
  · rw [(Task.returns_pure.1 returned).2]
    exact .refl bench
  · simp only [Task.returns_bind, Task.returns_use] at returned
    obtain ⟨expected, read, ⟨_, same⟩, rest⟩ := returned
    rw [same] at rest
    split at rest
    · rw [(Task.returns_pure.1 rest).2]
      exact .refl bench
    · rw [Task.returns_log.1 rest]
      exact .journal bench _

end Run

/-- The outcome is an error that is about a conflict over locks. -/
def Outcome.conflicts (outcome : Outcome) : Bool := outcome.error.any isLockConflict

namespace Progress

/-- The progress with the result of a statement. -/
def withResult (progress : Progress) (result : StatementResult) : Progress :=
  { progress with trace := progress.trace.record result }

/-- The progress with a transaction aborted at a statement: its further statements are not sent
and the place of the abort is noted. -/
def aborted (progress : Progress) (transaction : OpenTransaction) (statement : Statement) :
    Progress :=
  { progress with
    trace :=
      Run.abort
        (Run.skipAll progress.trace (Run.behind transaction.toTransaction statement.index))
        transaction.id statement.index }.setSent transaction.id transaction.size

/-- The progress with the outcome of a statement: its result, an abort if it is a lock conflict, and
the end of the transaction if that has come. -/
def account (progress : Progress) (transaction : OpenTransaction) (statement : Statement)
    (outcome : Outcome) (blocked : Bool) : Progress :=
  let recorded := progress.withResult (Run.resultOf statement outcome blocked)
  Run.noteEnd transaction statement
    (if outcome.conflicts then recorded.aborted transaction statement else recorded)

/-- The progress with one more statement of a transaction sent. -/
def noteSent (progress : Progress) (transaction : OpenTransaction) (statement : Statement) :
    Progress :=
  let progress := progress.setSent transaction.id (progress.sent transaction.id + 1)
  { progress with trace := Run.noteSnapshot progress.trace transaction.id statement }

/-- The progress with a statement parked. -/
def park (progress : Progress) (parked : Parked) : Progress :=
  { progress with parked := progress.parked ++ [parked] }

/-- The progress without what a transaction has parked. -/
def unpark (progress : Progress) (id : Value) : Progress :=
  { progress with parked := progress.parked.filter fun other => !other.id.alike id }

end Progress

namespace Run

/-- Recording an outcome accounts for it in the progress. A lock conflict is followed by a rollback, which
is sent on an agreeing bench; any other outcome leaves the bench in agreement. -/
theorem record_cases {transaction : OpenTransaction} {statement : Statement}
    {outcome : Outcome} {blocked : Bool} {progress result : Progress} {bench after : Bench}
    (returned : (record transaction statement outcome blocked progress).Returns bench result
      after) :
    result = progress.account transaction statement outcome blocked ∧
      (outcome.conflicts = false ∧ bench.Agrees after ∨
        outcome.conflicts = true ∧ ∃ logged, bench.Agrees logged ∧
          (rollbackInTime transaction.session).Returns logged () after) := by
  simp only [record, Task.returns_bind] at returned
  obtain ⟨⟨⟩, reported, report, rest⟩ := returned
  have agrees := reportUnexpected_returns report
  unfold Progress.account Outcome.conflicts
  cases failure : outcome.error with
  | none =>
    simp only [failure, Task.returns_bind, Task.returns_pure] at rest
    obtain ⟨_, _, ⟨rfl, rfl⟩, rfl, rfl⟩ := rest
    exact ⟨by simp [Progress.withResult], .inl ⟨rfl, agrees⟩⟩
  | some text =>
    simp only [failure] at rest
    by_cases conflict : isLockConflict text = true
    · simp only [if_pos conflict, Task.returns_bind, abortAt, Task.returns_log,
        Task.returns_pure] at rest
      obtain ⟨_, _, ⟨⟨⟩, logged, same, ⟨⟩, _, rolled, rfl, rfl⟩, rfl, rfl⟩ := rest
      exact ⟨by simp [conflict, Progress.withResult, Progress.aborted],
        .inr ⟨conflict, logged, agrees.trans (same ▸ .journal reported _), rolled⟩⟩
    · simp only [if_neg conflict, Task.returns_bind, Task.returns_pure] at rest
      obtain ⟨_, _, ⟨rfl, rfl⟩, rfl, rfl⟩ := rest
      exact ⟨by simp [conflict, Progress.withResult],
        .inl ⟨Bool.eq_false_iff.2 conflict, agrees⟩⟩

/-- A rollback changes the scene by its text, and any other outcome leaves it. -/
theorem record_returns {transaction : OpenTransaction} {statement : Statement}
    {outcome : Outcome} {blocked : Bool} {progress result : Progress} {bench after : Bench}
    (returned : (record transaction statement outcome blocked progress).Returns bench result
      after) :
    result = progress.account transaction statement outcome blocked ∧
      if outcome.conflicts then
        after.scene = bench.scene.send transaction.session (.text Bench.rollbackText)
      else bench.Agrees after := by
  obtain ⟨account, ⟨calm, agrees⟩ | ⟨conflict, logged, agrees, rolled⟩⟩ := record_cases returned
  · refine ⟨account, ?_⟩
    rw [calm]
    exact agrees
  · refine ⟨account, ?_⟩
    rw [if_pos conflict, ← agrees.scene]
    exact rollbackInTime_returns rolled

/-- The rollback that follows a lock conflict has an outcome. -/
theorem record_answered {transaction : OpenTransaction} {statement : Statement}
    {outcome : Outcome} {blocked : Bool} {progress result : Progress} {bench after : Bench}
    (returned : (record transaction statement outcome blocked progress).Returns bench result after)
    (conflict : outcome.conflicts = true) :
    ∃ given, (bench.scene.reply transaction.session (.text Bench.rollbackText)).result = .ok given := by
  obtain ⟨_, ⟨calm, _⟩ | ⟨_, logged, agrees, rolled⟩⟩ := record_cases returned
  · rw [conflict] at calm
    cases calm
  · rw [← agrees.scene]
    exact (rollbackInTime_cases rolled).1

end Run

/-- A statement that was sent, with the bench at that moment. -/
structure Sending where
  /-- The transaction. -/
  transaction : OpenTransaction
  /-- The statement. -/
  statement : Statement
  /-- The bench on which it was sent. -/
  bench : Bench

namespace Sending

/-- What came of it, and how long it took. -/
def reply (sending : Sending) : Reply :=
  sending.bench.scene.reply sending.transaction.session sending.statement.text

/-- The outcome of the session, if there was one. -/
def outcome (sending : Sending) : Outcome := sending.reply.result.toOption.getD {}

/-- By the clock it was still running when the block timeout was over. -/
def isLate (sending : Sending) : Bool :=
  (Value.addNumbers sending.bench.now sending.reply.delay).toOption.any fun finish =>
    Run.outlasts sending.bench.now finish sending.bench.settings.blockTimeout

/-- The result by which it is recorded. -/
def result (sending : Sending) : StatementResult :=
  Run.resultOf sending.statement sending.outcome sending.isLate

/-- The bench right after the statement was sent. -/
def after (sending : Sending) : Bench :=
  sending.bench.afterSending sending.transaction.session sending.statement.text

/-- When it is finished by the clock. -/
def finish (sending : Sending) : Number :=
  (Value.addNumbers sending.bench.now sending.reply.delay).toOption.getD sending.bench.now

/-- The bench once it is known whether it is late: it is finished, or the block timeout is over. -/
def waited (sending : Sending) : Bench :=
  (Run.await sending.finish sending.bench.settings.blockTimeout sending.after).2

/-- By the clock of a bench it is finished. -/
def FinishedBy (sending : Sending) (bench : Bench) : Prop :=
  sending.finish.le bench.now = true ∨ bench.now = sending.finish

/-- What a late statement is parked as. -/
def parked (sending : Sending) : Parked :=
  ⟨sending.transaction.id, sending.statement, sending.finish, sending.reply.result⟩

end Sending

namespace Run

/-- A statement is late exactly if it is awaited in vain, and awaiting it leaves the scene as it is. -/
theorem await_sending {sending : Sending} {finish : Number} {finished : Bool} {waited : Bench}
    (added : Value.addNumbers sending.bench.now sending.reply.delay = .ok finish)
    (awaited : (await finish sending.bench.settings.blockTimeout).Returns sending.after finished
      waited) :
    finish = sending.finish ∧ sending.isLate = !finished ∧ sending.waited = waited ∧
      waited.scene = sending.after.scene := by
  obtain ⟨judged, scene⟩ := await_returns awaited
  have ended : finish = sending.finish := by
    rw [Sending.finish, added]
    rfl
  have late : sending.isLate = !finished := by
    rw [judged, Sending.isLate, added]
    simp only [Except.toOption, Option.any_some, Bool.not_not]
    rfl
  rw [ended] at awaited
  exact ⟨ended, late, congrArg Prod.snd awaited, scene⟩

/-- A statement that is sent is noted. If it is not late its outcome is recorded as soon as it is
finished, and else it is parked. -/
theorem sendStatement_waits {transaction : OpenTransaction} {statement : Statement}
    {progress result : Progress} {bench after : Bench}
    (returned : (sendStatement transaction statement progress).Returns bench result after) :
    let sending : Sending := ⟨transaction, statement, bench⟩
    sending.waited.scene = sending.after.scene ∧
      if sending.isLate then
        sending.waited.Agrees after ∧
          result = (progress.noteSent transaction statement).park sending.parked
      else
        sending.FinishedBy sending.waited ∧ sending.reply.result = .ok sending.outcome ∧
          (record transaction statement sending.outcome false
            (progress.noteSent transaction statement)).Returns sending.waited result after := by
  intro sending
  simp only [sendStatement, Task.returns_bind, Bench.send_returns, finishTime_returns,
    Task.returns_get] at returned
  obtain ⟨_, _, ⟨rfl, rfl⟩, finish, _, ⟨added, rfl⟩, _, _, ⟨rfl, rfl⟩, finished, waited, awaited,
    rest⟩ := returned
  have sum : Value.addNumbers sending.bench.now sending.reply.delay = .ok finish := added
  obtain ⟨ended, late, waits, scene⟩ := await_sending sum awaited
  rw [ended] at awaited
  rw [waits]
  refine ⟨scene, ?_⟩
  rw [late]
  cases finished with
  | true =>
    simp only [Bool.not_true, Bool.false_eq_true, ↓reduceIte, Task.returns_bind,
      Task.returns_release] at rest ⊢
    obtain ⟨outcome, _, ⟨answered, rfl⟩, recorded⟩ := rest
    have same : sending.outcome = outcome := by
      have reply : sending.reply.result = .ok outcome := answered
      simp [Sending.outcome, reply, Except.toOption]
    rw [same]
    exact ⟨await_finished awaited, answered, recorded⟩
  | false =>
    simp only [Bool.not_false, Bool.false_eq_true, ↓reduceIte, Task.returns_bind,
      Task.returns_log, Task.returns_pure] at rest ⊢
    obtain ⟨_, _, rfl, rfl, rfl⟩ := rest
    refine ⟨.journal waited _, ?_⟩
    rw [ended]
    rfl

/-- Waiting leaves the scene as it is. -/
theorem sendStatement_returns {transaction : OpenTransaction} {statement : Statement}
    {progress result : Progress} {bench after : Bench}
    (returned : (sendStatement transaction statement progress).Returns bench result after) :
    let sending : Sending := ⟨transaction, statement, bench⟩
    ∃ waited : Bench, waited.scene = sending.after.scene ∧
      if sending.isLate then
        waited.Agrees after ∧
          result = (progress.noteSent transaction statement).park sending.parked
      else
        sending.reply.result = .ok sending.outcome ∧
          (record transaction statement sending.outcome false
            (progress.noteSent transaction statement)).Returns waited result after := by
  intro sending
  obtain ⟨scene, went⟩ := sendStatement_waits returned
  refine ⟨sending.waited, scene, ?_⟩
  split at went
  next late =>
    rw [if_pos late]
    exact went
  next prompt =>
    rw [if_neg prompt]
    exact went.2

end Run

end SerialCheck

import SerialCheck.Proofs.Fails
import SerialCheck.Proofs.Interleaved.Sending

/-!
# How the steps of an interleaved run fail

A wait fails if its deadline cannot be told or is before everything that is waited for. A rollback
fails if it does not finish in time, and recording and sending fail where one of their parts does.
-/
namespace SerialCheck

namespace Run

variable {bench after : Bench} {fault : Fault}

/-- The deadline is the time with the timeout added to it, if that is a number. -/
theorem deadline_returns_iff {timeout : Value} {time : Number} :
    (deadline timeout).Returns bench time after ↔
      timeout.addTo bench.now = .ok time ∧ (time.isDecimal && time.toDecimal.isNan) = false ∧
        after = bench := by
  simp only [deadline, Task.returns_bind, Task.returns_get, Task.returns_use]
  constructor
  · rintro ⟨_, _, ⟨rfl, rfl⟩, sum, _, ⟨added, rfl⟩, rest⟩
    split at rest
    · simp only [Task.returns_bind, Task.returns_throw, false_and, exists_false] at rest
    next defined =>
      obtain ⟨rfl, rfl⟩ := Task.returns_pure.1 rest
      exact ⟨added, Bool.eq_false_iff.2 defined, rfl⟩
  · rintro ⟨added, defined, rfl⟩
    refine ⟨_, _, ⟨rfl, rfl⟩, time, _, ⟨added, rfl⟩, ?_⟩
    simp only [defined, Bool.false_eq_true, ↓reduceIte]
    exact Task.returns_pure.2 ⟨rfl, rfl⟩

/-- The time that is later than another one by a timeout can be told. -/
def Tells (timeout : Value) (now : Number) : Prop :=
  ∃ time, timeout.addTo now = .ok time ∧ (time.isDecimal && time.toDecimal.isNan) = false

/-- A deadline fails only if it cannot be told, and nothing has changed then. -/
theorem deadline_fails {timeout : Value} (failed : (deadline timeout).Fails bench fault after) :
    ¬ Tells timeout bench.now ∧ after = bench := by
  refine ⟨?_, ?_⟩
  · rintro ⟨time, added, defined⟩
    exact failed.not_returns (deadline_returns_iff.2 ⟨added, defined, rfl⟩)
  simp only [deadline, Task.fails_bind, Task.fails_get, Task.fails_use, Task.returns_get,
    Task.returns_use, false_or] at failed
  obtain ⟨_, _, ⟨rfl, rfl⟩, ⟨_, _, _, rfl⟩ | ⟨sum, _, ⟨_, rfl⟩, rest⟩⟩ := failed
  · rfl
  · split at rest
    · simp only [Task.fails_bind, Task.fails_throw, Task.returns_throw, false_and, exists_false,
        or_false] at rest
      exact rest.2
    · exact (Task.fails_pure.1 rest).elim

/-- So does awaiting. -/
theorem await_fails {finish : Number} {timeout : Value}
    (failed : (await finish timeout).Fails bench fault after) :
    ¬ Tells timeout bench.now ∧ after = bench := by
  unfold await at failed
  rw [Task.fails_get_bind] at failed
  split at failed
  · exact (Task.fails_pure.1 failed).elim
  · split at failed
    · simp only [Task.fails_bind, setTime, Task.fails_modify, Task.fails_pure, and_false,
        exists_false, or_self] at failed
    · rcases Task.fails_bind.1 failed with untold | ⟨limit, between, _, rest⟩
      · exact deadline_fails untold
      · unfold awaitUntil at rest
        split at rest <;>
          simp only [Task.fails_bind, setTime, Task.fails_modify, Task.fails_pure, and_false,
            exists_false, or_self] at rest

/-- The time when a wait for parked statements with the given deadline is over. -/
def waitedUntil (first : Parked) (others : List Parked) (limit : Number) (now : Number) : Number :=
  if limit.lt (firstFinish first others) then limit else now.latest (firstFinish first others)

/-- No parked statement is finished when a wait with the given deadline is over. -/
def waitsInVain (first : Parked) (others : List Parked) (limit now : Number) : Bool :=
  limit.lt (firstFinish first others) ||
    !(first :: others).any (·.finish.le (waitedUntil first others limit now))

/-- The fault of a wait in vain: the statements that are waited for. -/
def stuckOn (timeout : Value) (first : Parked) (others : List Parked) : Fault :=
  .session (.stuck timeout ((first :: others).map Parked.statement))

/-- A wait tells its deadline, moves the time on and fails if it was in vain. -/
theorem waitForParked_eq (first : Parked) (others : List Parked) :
    waitForParked first others = (do
      let bench ← get
      let limit ← deadline bench.settings.statementTimeout
      setTime (waitedUntil first others limit bench.now)
      if waitsInVain first others limit bench.now then
        throw (stuckOn bench.settings.statementTimeout first others) : Task Unit) := rfl

variable {first : Parked} {others : List Parked}

/-- A wait returns if one of the parked statements is finished in time. -/
theorem waitForParked_returns_iff : (waitForParked first others).Returns bench () after ↔
    ∃ limit, (deadline bench.settings.statementTimeout).Returns bench limit bench ∧
      waitsInVain first others limit bench.now = false ∧
        after = { bench with now := waitedUntil first others limit bench.now } := by
  rw [waitForParked_eq, Task.returns_get_bind]
  simp only [Task.returns_bind, setTime_returns]
  constructor
  · rintro ⟨limit, between, told, _, later, moved, rest⟩
    have same : between = bench := (deadline_returns told).2
    subst same
    split at rest
    · exact (Task.returns_throw.1 rest).elim
    next timely =>
      rw [(Task.returns_pure.1 rest).2]
      exact ⟨limit, told, Bool.eq_false_iff.2 timely, moved⟩
  · rintro ⟨limit, told, timely, moved⟩
    refine ⟨limit, _, told, (), _, rfl, ?_⟩
    rw [timely]
    exact Task.returns_pure.2 ⟨rfl, moved⟩

/-- A wait fails if its deadline cannot be told or none of the parked statements is finished. -/
theorem waitForParked_fails (failed : (waitForParked first others).Fails bench fault after) :
    ¬ Tells bench.settings.statementTimeout bench.now ∨
      ∃ limit, (deadline bench.settings.statementTimeout).Returns bench limit bench ∧
        waitsInVain first others limit bench.now = true ∧
          fault = stuckOn bench.settings.statementTimeout first others ∧
            after = { bench with now := waitedUntil first others limit bench.now } := by
  rw [waitForParked_eq, Task.fails_get_bind] at failed
  rcases Task.fails_bind.1 failed with untold | ⟨limit, between, told, rest⟩
  · exact .inl (deadline_fails untold).1
  · have same : between = bench := (deadline_returns told).2
    subst same
    simp only [Task.fails_bind, setTime_returns] at rest
    rcases rest with unmoved | ⟨_, later, rfl, rest⟩
    · exact (Task.fails_modify.1 unmoved).elim
    · split at rest
      next vain =>
        obtain ⟨thrown, same⟩ := Task.fails_throw.1 rest
        exact .inr ⟨limit, told, vain, thrown, same⟩
      · exact (Task.fails_pure.1 rest).elim

/-- The clock can tell when something that takes the given time is finished and when a timeout is
over. -/
def Measures (now delay : Number) (timeout : Value) : Prop :=
  (∃ finish, Value.addNumbers now delay = .ok finish) ∧ Tells timeout now

/-- A text that is sent has a reply, whatever that is. -/
theorem not_send_fails {session : Session} {text : Value} :
    ¬ (Bench.send session text).Fails bench fault after := fun failed =>
  failed.not_returns (Bench.send_returns.2 ⟨rfl, rfl⟩)

/-- So has a rollback. -/
theorem not_sendRollback_fails {session : Session} :
    ¬ (Bench.sendRollback session).Fails bench fault after := by
  intro failed
  have recorded : ∀ reply between, ¬ (Bench.recordRollback session reply).Fails between fault
      after := by
    intro reply between failed
    unfold Bench.recordRollback at failed
    split at failed
    · exact Task.fails_log.1 failed
    · exact Task.fails_pure.1 failed
  simp only [Bench.sendRollback, Task.fails_bind, Task.fails_pure, and_false, exists_false,
    or_false] at failed
  rcases failed with unsent | ⟨reply, between, _, unrecorded⟩
  · exact not_send_fails unsent
  · exact recorded reply between unrecorded

/-- The reply to a rollback that is sent on a bench. -/
def rollbackReply (session : Session) (bench : Bench) : Reply :=
  bench.scene.reply session (.text Bench.rollbackText)

/-- A rollback that is sent on a bench is not finished when it has been awaited for long enough. -/
def Overruns (session : Session) (bench : Bench) : Prop :=
  ∃ finish, Value.addNumbers bench.now (rollbackReply session bench).delay = .ok finish ∧
    outlasts bench.now finish bench.settings.statementTimeout = true

/-- On agreeing benches a rollback takes as long. -/
theorem overruns_congr {session : Session} {other : Bench} (agrees : bench.Agrees other) :
    Overruns session other ↔ Overruns session bench := by
  unfold Overruns rollbackReply
  rw [agrees.scene, agrees.now, agrees.settings]

/-- How a rollback fails that has to be finished in time. -/
inductive RollbackFails (session : Session) (bench : Bench) : Fault → Prop where
  /-- The clock cannot tell the time. -/
  | untold {fault : Fault} (unmeasured : ¬ Measures bench.now (rollbackReply session bench).delay
      bench.settings.statementTimeout) : RollbackFails session bench fault
  /-- There is a fault of the session. -/
  | lost {fault : Fault} (failed : (rollbackReply session bench).result = .error fault)
      (timely : ¬ Overruns session bench) : RollbackFails session bench fault
  /-- It is not finished in time. -/
  | late (overruns : Overruns session bench) : RollbackFails session bench .timeout

/-- On agreeing benches a rollback fails alike. -/
theorem RollbackFails.of_agrees {session : Session} {other : Bench} (agrees : bench.Agrees other)
    (fails : RollbackFails session other fault) : RollbackFails session bench fault := by
  cases fails with
  | untold unmeasured =>
    unfold rollbackReply at unmeasured
    rw [agrees.scene, agrees.now, agrees.settings] at unmeasured
    exact .untold unmeasured
  | lost failed timely =>
    unfold rollbackReply at failed
    rw [agrees.scene] at failed
    exact .lost failed fun overruns => timely ((overruns_congr agrees).2 overruns)
  | late overruns => exact .late ((overruns_congr agrees).1 overruns)

/-- A rollback that is sent either has a time at which it is finished, which is awaited, or none. -/
theorem rollbackInTime_eq {session : Session} : rollbackInTime session = (do
    let reply ← Bench.sendRollback session
    let finish ← finishTime reply.delay
    let bench ← get
    let finished ← await finish bench.settings.statementTimeout
    if finished then discard (Bench.outcomeOf reply) else throw .timeout : Task Unit) := rfl

/-- A rollback that returns was finished in time. -/
theorem rollbackInTime_timely {session : Session} {result : Unit}
    (returned : (rollbackInTime session).Returns bench result after) : ¬ Overruns session bench := by
  obtain ⟨_, sent, finish, agrees, added, awaited⟩ := rollbackInTime_cases returned
  have judged := (await_returns awaited).1
  have now : sent.now = bench.now := agrees.now
  rw [now] at judged
  rintro ⟨other, finishes, outlasts⟩
  cases added.symm.trans finishes
  rw [outlasts] at judged
  cases judged

/-- A rollback that is not awaited to its end fails in one of these ways. -/
theorem rollbackInTime_fails {session : Session}
    (failed : (rollbackInTime session).Fails bench fault after) :
    RollbackFails session bench fault := by
  rw [rollbackInTime_eq] at failed
  rcases Task.fails_bind.1 failed with unsent | ⟨reply, sent, began, ending⟩
  · exact (not_sendRollback_fails unsent).elim
  obtain ⟨rfl, agrees⟩ := Bench.sendRollback_returns began
  have now : sent.now = bench.now := agrees.now
  have settings : sent.settings = bench.settings := agrees.settings
  rcases Task.fails_bind.1 ending with untimed | ⟨finish, same, timed, awaiting⟩
  · simp only [finishTime, Task.fails_get_bind, Task.fails_use] at untimed
    obtain ⟨cause, unadded, _, _⟩ := untimed
    refine .untold ?_
    rintro ⟨⟨finish, added⟩, _⟩
    rw [now] at unadded
    cases added.symm.trans unadded
  obtain ⟨added, rfl⟩ := finishTime_returns.1 timed
  rw [now] at added
  rw [Task.fails_get_bind] at awaiting
  rcases Task.fails_bind.1 awaiting with unawaited | ⟨finished, waited, awaited, rest⟩
  · have untold := (await_fails unawaited).1
    rw [now, settings] at untold
    exact .untold fun measured => untold measured.2
  have judged := (await_returns awaited).1
  rw [now, settings] at judged
  cases finished with
  | true =>
    simp only [↓reduceIte, Task.fails_discard, Bench.outcomeOf, Task.fails_release] at rest
    refine .lost rest.1 ?_
    rintro ⟨other, finishes, outlasts⟩
    cases added.symm.trans finishes
    rw [outlasts] at judged
    cases judged
  | false =>
    obtain ⟨rfl, _⟩ := Task.fails_throw.1 rest
    exact .late ⟨finish, added, by simpa using judged.symm⟩

/-- An outcome that is not recorded is an error that cannot be compared with the expected ones, or a
lock conflict whose rollback fails. -/
theorem record_fails {transaction : OpenTransaction} {statement : Statement} {outcome : Outcome}
    {blocked : Bool} {progress : Progress}
    (failed : (record transaction statement outcome blocked progress).Fails bench fault after) :
    (∃ report cause, statement.expects report = .error cause ∧ fault = .misuse cause) ∨
      outcome.conflicts = true ∧ RollbackFails transaction.session bench fault := by
  simp only [record] at failed
  rcases Task.fails_bind.1 failed with unread | ⟨⟨⟩, reported, report, rest⟩
  · unfold reportUnexpected at unread
    split at unread
    · exact (Task.fails_pure.1 unread).elim
    next report _ =>
      rcases Task.fails_bind.1 unread with misused | ⟨expected, between, _, unlogged⟩
      · obtain ⟨cause, unexpected, thrown, _⟩ := Task.fails_use.1 misused
        exact .inl ⟨report, cause, unexpected, thrown⟩
      · split at unlogged
        · exact (Task.fails_pure.1 unlogged).elim
        · exact (Task.fails_log.1 unlogged).elim
  have agrees := reportUnexpected_returns report
  cases failure : outcome.error with
  | none =>
    simp only [failure, Task.fails_bind, Task.fails_pure, and_false, exists_false, or_self] at rest
  | some text =>
    simp only [failure] at rest
    by_cases conflict : isLockConflict text = true
    · simp only [if_pos conflict, Task.fails_bind, abortAt, Task.fails_log, Task.returns_log,
        Task.fails_pure, and_false, exists_false, or_false, false_or] at rest
      obtain ⟨_, logged, rfl, rolled⟩ := rest
      refine .inr ⟨by simp [Outcome.conflicts, failure, conflict], ?_⟩
      exact (rollbackInTime_fails rolled).of_agrees (agrees.trans (.journal reported _))
    · simp only [if_neg conflict, Task.fails_bind, Task.fails_pure, and_false, exists_false,
        or_self] at rest

/-- The rollback that follows a recorded lock conflict was finished in time. -/
theorem record_timely {transaction : OpenTransaction} {statement : Statement} {outcome : Outcome}
    {blocked : Bool} {progress result : Progress}
    (returned : (record transaction statement outcome blocked progress).Returns bench result after)
    (conflict : outcome.conflicts = true) : ¬ Overruns transaction.session bench := by
  obtain ⟨_, ⟨calm, _⟩ | ⟨_, logged, agrees, rolled⟩⟩ := record_cases returned
  · rw [conflict] at calm
    cases calm
  · exact fun overruns => rollbackInTime_timely rolled ((overruns_congr agrees).2 overruns)

/-- A statement is sent in vain if the clock fails, or if it is not late and either has no outcome or
one that is not recorded. -/
theorem sendStatement_fails {transaction : OpenTransaction} {statement : Statement}
    {progress : Progress}
    (failed : (sendStatement transaction statement progress).Fails bench fault after) :
    let sending : Sending := ⟨transaction, statement, bench⟩
    ¬ Measures bench.now sending.reply.delay bench.settings.blockTimeout ∨
      sending.isLate = false ∧
        (sending.reply.result = .error fault ∨
          sending.reply.result = .ok sending.outcome ∧
            (record transaction statement sending.outcome false
              (progress.noteSent transaction statement)).Fails sending.waited fault after) := by
  intro sending
  simp only [sendStatement] at failed
  rcases Task.fails_bind.1 failed with unsent | ⟨reply, sent, began, ending⟩
  · exact (not_send_fails unsent).elim
  obtain ⟨rfl, rfl⟩ := Bench.send_returns.1 began
  rcases Task.fails_bind.1 ending with untimed | ⟨finish, same, timed, awaiting⟩
  · simp only [finishTime, Task.fails_get_bind, Task.fails_use] at untimed
    obtain ⟨cause, unadded, _, _⟩ := untimed
    refine .inl ?_
    rintro ⟨⟨finish, added⟩, _⟩
    have sum : Value.addNumbers bench.now sending.reply.delay = .error cause := unadded
    rw [added] at sum
    cases sum
  obtain ⟨added, rfl⟩ := finishTime_returns.1 timed
  rw [Task.fails_get_bind] at awaiting
  have sum : Value.addNumbers sending.bench.now sending.reply.delay = .ok finish := added
  rcases Task.fails_bind.1 awaiting with unawaited | ⟨finished, waited, awaited, rest⟩
  · exact .inl fun measured => (await_fails unawaited).1 measured.2
  obtain ⟨_, late, waits, _⟩ := await_sending sum awaited
  cases finished with
  | true =>
    refine .inr ⟨late, ?_⟩
    simp only [↓reduceIte] at rest
    rcases Task.fails_bind.1 rest with lost | ⟨outcome, between, released, unrecorded⟩
    · exact .inl (Task.fails_release.1 lost).1
    · obtain ⟨answered, rfl⟩ := Task.returns_release.1 released
      have reply : sending.reply.result = .ok outcome := answered
      have same : sending.outcome = outcome := by simp [Sending.outcome, reply, Except.toOption]
      rw [waits, same]
      exact .inr ⟨answered, unrecorded⟩
  | false =>
    simp only [Bool.false_eq_true, ↓reduceIte, Task.fails_bind, Task.fails_log, Task.fails_pure,
      and_false, exists_false, or_self] at rest

end Run

end SerialCheck

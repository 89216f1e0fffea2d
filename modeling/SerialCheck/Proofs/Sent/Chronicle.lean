import SerialCheck.Proofs.Sent.Texts

/-!
# The chronicle of an interleaved run

The chronicle of a run tells what has happened on the sessions so far: statements were sent, their
outcomes were taken once they were finished, and transactions were rolled back. Every moment that a run
comes to has one (`Run.exists_chronicle`). It tells all that the log of the server has gained
(`Run.Chronicle.log`) and, for each transaction, that each of its statements was sent and then taken, one
after the other (`Run.Chronicle.course`).
-/
namespace SerialCheck

/-- What happens on the session of a transaction. -/
inductive Incident where
  /-- A statement is sent. -/
  | sent (sending : Sending)
  /-- The outcome of a statement is taken on a bench. -/
  | taken (sending : Sending) (bench : Bench)
  /-- Because of the outcome of a statement the transaction is rolled back on a bench. -/
  | rolledBack (sending : Sending) (bench : Bench)

namespace Incident

/-- The statement that it is about. -/
def sending : Incident → Sending
  | sent sending => sending
  | taken sending _ => sending
  | rolledBack sending _ => sending

/-- The transaction on whose session it happens. -/
def transaction (incident : Incident) : OpenTransaction := incident.sending.transaction

/-- The bench on which it happens. -/
def bench : Incident → Bench
  | sent sending => sending.bench
  | taken _ bench => bench
  | rolledBack _ bench => bench

/-- The text that is sent. -/
def text? : Incident → Option Value
  | sent sending => some sending.statement.text
  | taken .. => none
  | rolledBack .. => some (.text Bench.rollbackText)

/-- What the log of the server gains. -/
def entries (incident : Incident) : List (Nat × Event) :=
  match incident.text? with
  | some text => incident.transaction.session.entries incident.bench.server text
  | none => []

/-- It happens on the session of the transaction with a number. -/
def isOf (id : Value) (incident : Incident) : Bool := incident.transaction.id.alike id

variable {incidents : List Incident} {transaction : OpenTransaction}

/-- What happens on the session of a transaction are incidents of that transaction. -/
theorem filter_own (all : ∀ incident ∈ incidents, incident.transaction = transaction) :
    incidents.filter (isOf transaction.id) = incidents := by
  refine List.filter_eq_self.2 fun incident member => ?_
  rw [isOf, all incident member]
  exact Value.alike_refl _

/-- They are no incidents of another one. -/
theorem filter_other (all : ∀ incident ∈ incidents, incident.transaction = transaction) {id : Value}
    (apart : transaction.id.alike id = false) : incidents.filter (isOf id) = [] := by
  refine List.filter_eq_nil_iff.2 fun incident member => ?_
  rw [isOf, all incident member, apart]
  exact Bool.false_ne_true

end Incident

namespace Sending

/-- What happens when the outcome is taken on a bench: a lock conflict is followed by a rollback. -/
def recorded (sending : Sending) (bench : Bench) : List Incident :=
  .taken sending bench :: if sending.outcome.conflicts then [.rolledBack sending bench] else []

/-- What happens with a statement whose outcome is taken on a bench. -/
def course (sending : Sending) (bench : Bench) : List Incident :=
  .sent sending :: sending.recorded bench

/-- All of that happens on the session of its transaction. -/
theorem transaction_of_mem_recorded {sending : Sending} {bench : Bench} {incident : Incident}
    (member : incident ∈ sending.recorded bench) : incident.transaction = sending.transaction := by
  unfold recorded at member
  split at member
  · rcases List.mem_pair.1 member with rfl | rfl <;> rfl
  · rw [List.mem_singleton.1 member]
    rfl

/-- So does the sending, whether or not the outcome is taken at once. -/
theorem transaction_of_mem_sent {sending : Sending} {bench : Bench} {incident : Incident} (late : Bool)
    (member : incident ∈ .sent sending :: if late then [] else sending.recorded bench) :
    incident.transaction = sending.transaction := by
  rcases List.mem_cons.1 member with rfl | further
  · rfl
  · split at further
    · cases further
    · exact transaction_of_mem_recorded further

end Sending

namespace Run

/-- What has happened on the sessions until a moment of an interleaved run. -/
inductive Chronicle (batch : Batch) (start : Bench) : Moment → List Incident → Prop where
  /-- Nothing has happened when the run begins. -/
  | first : Chronicle batch start (.first start) []
  /-- A statement is sent. If it is not late its outcome is taken as soon as it is finished. -/
  | send {moment : Moment} {history : List Incident}
      (chronicle : Chronicle batch start moment history) (sending : Sending) (progress : Progress)
      (bench : Bench)
      (step : Next batch moment ⟨progress, bench, moment.sendings ++ [sending]⟩)
      (free : moment.progress.canContinue sending.transaction = true)
      (agrees : moment.bench.Agrees sending.bench)
      (returned : (sendStatement sending.transaction sending.statement moment.progress).Returns
        sending.bench progress bench) :
      Chronicle batch start ⟨progress, bench, moment.sendings ++ [sending]⟩
        (history ++ .sent sending :: if sending.isLate then [] else sending.recorded sending.waited)
  /-- The outcome of the last statement of a transaction is taken, which was parked and is finished
  now. -/
  | settle {moment : Moment} {history : List Incident}
      (chronicle : Chronicle batch start moment history) (earlier : List Sending) (sending : Sending)
      (progress : Progress) (bench : Bench)
      (step : Next batch moment ⟨progress, bench, moment.sendings⟩)
      (last : moment.sendingsOf sending.transaction.id = earlier ++ [sending])
      (parked : sending.parked ∈ moment.progress.parked)
      (finished : sending.finish.le moment.bench.now = true)
      (returned : (record sending.transaction sending.statement sending.outcome true
        (moment.progress.unpark sending.transaction.id)).Returns moment.bench progress bench) :
      Chronicle batch start ⟨progress, bench, moment.sendings⟩
        (history ++ sending.recorded moment.bench)
  /-- Nothing happens while the run waits. -/
  | wait {moment : Moment} {history : List Incident}
      (chronicle : Chronicle batch start moment history) (bench : Bench)
      (step : Next batch moment ⟨moment.progress, bench, moment.sendings⟩)
      (still : bench.scene = moment.bench.scene) :
      Chronicle batch start ⟨moment.progress, bench, moment.sendings⟩ history

variable {batch : Batch} {start : Bench} {moment : Moment} {history : List Incident}

/-- What has a chronicle can be reached. -/
theorem Chronicle.reached (chronicle : Chronicle batch start moment history) :
    Reached batch start moment := by
  induction chronicle with
  | first => exact .first
  | send _ _ _ _ step _ _ _ hypothesis => exact .next hypothesis step
  | settle _ _ _ _ _ step _ _ _ _ hypothesis => exact .next hypothesis step
  | wait _ _ step _ hypothesis => exact .next hypothesis step

/-- What can be reached has a chronicle. -/
theorem exists_chronicle (numbered : batch.Numbered) (reached : Reached batch start moment) :
    ∃ history, Chronicle batch start moment history := by
  induction reached with
  | first => exact ⟨[], .first⟩
  | @next moment after reached step hypothesis =>
    obtain ⟨history, chronicle⟩ := hypothesis
    cases step with
    | settle parked transaction outcome progress bench waiting finished found answered recorded =>
      have sound := Sound.of_reached numbered reached
      obtain ⟨member, named, earlier, last, all, stands, held⟩ :=
        sound.waiting_of_found numbered waiting found
      have own : last.transaction = transaction := stands.owner last (by simp)
      have result : last.reply.result = .ok outcome := by
        rw [held] at answered
        exact answered
      have outcomes : last.outcome = outcome := by simp [Sending.outcome, result, Except.toOption]
      refine ⟨_, .settle chronicle earlier last progress bench ?_ ?_ ?_ ?_ ?_⟩
      · exact .settle parked transaction outcome progress bench waiting finished found answered recorded
      · rw [own, all]
      · exact held ▸ waiting
      · rw [held] at finished
        exact finished
      · rw [named, held] at recorded
        rw [own, outcomes]
        exact recorded
    | send first others transaction statement chosen progress bench runnable picked next sent =>
      obtain ⟨inside, agrees⟩ := pick_returns picked
      exact ⟨_, .send chronicle ⟨transaction, statement, chosen⟩ progress bench
        (.send first others transaction statement chosen progress bench runnable picked next sent)
        (Progress.mem_runnable.1 (runnable ▸ inside)).2 agrees sent⟩
    | wait first others bench parked none waited =>
      exact ⟨history, .wait chronicle bench (.wait first others bench parked none waited)
        (waitForParked_returns waited)⟩

/-- What the log gains when a text is sent. -/
theorem log_send (scene : Scene) (session : Session) (text : Value) :
    (scene.send session text).server.log.toList =
      scene.server.log.toList ++ session.entries scene.server text :=
  congrArg Prod.fst (session.register_execute text scene.server)

/-- What the log gains when an outcome is recorded. -/
theorem log_recorded {sending : Sending} {blocked : Bool} {progress result : Progress}
    {bench after : Bench}
    (returned : (record sending.transaction sending.statement sending.outcome blocked progress).Returns
      bench result after) :
    after.server.log.toList =
      bench.server.log.toList ++ (sending.recorded bench).flatMap Incident.entries := by
  have scene := (record_returns returned).2
  unfold Sending.recorded
  split at scene
  next conflict =>
    rw [if_pos conflict, show after.server = after.scene.server from rfl, scene, log_send]
    simp [Incident.entries, Incident.text?, Incident.transaction, Incident.sending, Incident.bench]
    rfl
  next calm =>
    rw [if_neg calm, scene.server]
    simp [Incident.entries, Incident.text?]

/-- The chronicle tells all that the log of the server has gained. -/
theorem Chronicle.log (chronicle : Chronicle batch start moment history) :
    moment.bench.server.log.toList =
      start.server.log.toList ++ history.flatMap Incident.entries := by
  induction chronicle with
  | first => simp [Moment.first]
  | @send moment history chronicle sending progress bench step free agrees returned hypothesis =>
    obtain ⟨scene, went⟩ := sendStatement_waits returned
    have sent : sending.waited.server.log.toList = moment.bench.server.log.toList ++
        (Incident.sent sending).entries := by
      rw [show sending.waited.server = _ from congrArg Scene.server scene, Sending.after,
        Bench.afterSending_scene, log_send, ← agrees.server]
      rfl
    rw [List.flatMap_append, List.flatMap_cons, ← List.append_assoc, ← hypothesis, ← List.append_assoc,
      ← sent]
    split at went
    next late =>
      rw [if_pos late, went.1.server]
      simp
    next prompt =>
      rw [if_neg prompt]
      exact log_recorded went.2.2
  | settle chronicle earlier sending progress bench step last parked finished returned hypothesis =>
    rw [List.flatMap_append, ← List.append_assoc, ← hypothesis]
    exact log_recorded returned
  | wait chronicle bench step still hypothesis =>
    rw [show bench.server = _ from congrArg Scene.server still]
    exact hypothesis

/-- What happens in a run happens on the sessions of its transactions. -/
theorem Chronicle.transaction_mem (numbered : batch.Numbered)
    (chronicle : Chronicle batch start moment history) :
    ∀ incident ∈ history, incident.transaction ∈ batch := by
  induction chronicle with
  | first => exact fun _ member => absurd member List.not_mem_nil
  | send chronicle sending progress bench step free agrees returned hypothesis =>
    have held : sending.transaction ∈ batch :=
      (Sound.of_reached numbered (chronicle.reached.next step)).sent sending (by simp)
    intro incident member
    rcases List.mem_append.1 member with earlier | new
    · exact hypothesis incident earlier
    · exact Sending.transaction_of_mem_sent _ new ▸ held
  | @settle moment history chronicle earlier sending progress bench step last parked finished returned
      hypothesis =>
    have listed : sending ∈ moment.sendingsOf sending.transaction.id := by
      rw [last]
      simp
    have held : sending.transaction ∈ batch :=
      (Sound.of_reached numbered chronicle.reached).sent sending (List.mem_filter.1 listed).1
    intro incident member
    rcases List.mem_append.1 member with earlier | new
    · exact hypothesis incident earlier
    · exact Sending.transaction_of_mem_recorded new ▸ held
  | wait chronicle bench step still hypothesis => exact hypothesis

/-- What has happened with one transaction: each of its statements was sent and then taken once it was
finished, but the last one may still be parked. -/
structure Course (transaction : OpenTransaction) (moment : Moment) (history : List Incident)
    (takings : List (Sending × Bench)) (waiting : Option Sending) : Prop where
  /-- These are the statements that were sent. -/
  all : moment.sendingsOf transaction.id = takings.map Prod.fst ++ waiting.toList
  /-- This is what has happened. -/
  told : history.filter (·.isOf transaction.id) =
    takings.flatMap (fun taking => taking.1.course taking.2) ++ waiting.toList.map .sent
  /-- What is waited for is parked, and nothing else. -/
  parked : moment.progress.parked.filter (·.id.alike transaction.id) =
    waiting.toList.map Sending.parked
  /-- A statement is taken on a bench by whose clock it is finished. -/
  finished : ∀ taking ∈ takings, taking.1.FinishedBy taking.2
  /-- A rollback has an outcome. -/
  answered : ∀ taking ∈ takings, taking.1.outcome.conflicts = true →
    ∃ outcome, (taking.2.scene.reply taking.1.transaction.session
      (.text Bench.rollbackText)).result = .ok outcome

namespace Course

/-- Nothing has happened with a transaction when the run begins. -/
theorem first (transaction : OpenTransaction) (start : Bench) :
    Course transaction (.first start) [] [] none where
  all := rfl
  told := rfl
  parked := rfl
  finished := fun _ member => absurd member List.not_mem_nil
  answered := fun _ member => absurd member List.not_mem_nil

variable {transaction : OpenTransaction} {takings : List (Sending × Bench)} {waiting : Option Sending}
  {sending : Sending} {progress : Progress} {bench after : Bench} {incidents : List Incident}

/-- What happens with another transaction does not matter. -/
theorem other (course : Course transaction moment history takings waiting)
    (apart : sending.transaction.id.alike transaction.id = false)
    (theirs : ∀ incident ∈ incidents, incident.transaction = sending.transaction)
    {sendings : List Sending}
    (sent : sendings.filter (·.transaction.id.alike transaction.id) = moment.sendingsOf transaction.id)
    (parked : progress.parked.filter (·.id.alike transaction.id) =
      moment.progress.parked.filter (·.id.alike transaction.id)) :
    Course transaction ⟨progress, after, sendings⟩ (history ++ incidents) takings waiting where
  all := sent.trans course.all
  told := by
    rw [List.filter_append, Incident.filter_other theirs apart, List.append_nil]
    exact course.told
  parked := parked.trans course.parked
  finished := course.finished
  answered := course.answered

/-- A late statement of the transaction is waited for. -/
theorem park (course : Course sending.transaction moment history takings none)
    (parked : progress.parked = moment.progress.parked ++ [sending.parked]) :
    Course sending.transaction ⟨progress, after, moment.sendings ++ [sending]⟩
      (history ++ [.sent sending]) takings (some sending) where
  all := by
    rw [Moment.sendingsOf_append, course.all]
    simp
  told := by
    have own : ∀ incident ∈ [Incident.sent sending], incident.transaction = sending.transaction := by
      simp [Incident.transaction, Incident.sending]
    rw [List.filter_append, course.told, Incident.filter_own own]
    simp
  parked := by
    rw [show (Moment.mk progress after _).progress.parked = _ from parked, List.filter_append,
      course.parked]
    simp [Sending.parked, Value.alike_refl]
  finished := course.finished
  answered := course.answered

/-- A statement of the transaction is taken that was sent before or was just sent. -/
theorem take (course : Course sending.transaction moment history takings waiting)
    {sendings : List Sending}
    (sent : sendings.filter (·.transaction.id.alike sending.transaction.id) =
      takings.map Prod.fst ++ [sending])
    (incidents : List Incident)
    (told : waiting.toList.map .sent ++ incidents = sending.course bench)
    (theirs : ∀ incident ∈ incidents, incident.transaction = sending.transaction)
    (parked : progress.parked.filter (·.id.alike sending.transaction.id) = [])
    (finished : sending.FinishedBy bench)
    (answered : sending.outcome.conflicts = true →
      ∃ outcome, (bench.scene.reply sending.transaction.session
        (.text Bench.rollbackText)).result = .ok outcome) :
    Course sending.transaction ⟨progress, after, sendings⟩ (history ++ incidents)
      (takings ++ [(sending, bench)]) none where
  all := by
    rw [show (Moment.mk progress after sendings).sendingsOf _ = _ from sent]
    simp
  told := by
    rw [List.filter_append, course.told, Incident.filter_own theirs, List.append_assoc, told]
    simp
  parked := parked
  finished := by
    intro taking member
    rcases List.mem_append.1 member with earlier | new
    · exact course.finished taking earlier
    · rw [List.mem_singleton.1 new]
      exact finished
  answered := by
    intro taking member
    rcases List.mem_append.1 member with earlier | new
    · exact course.answered taking earlier
    · rw [List.mem_singleton.1 new]
      exact answered

end Course

/-- The chronicle tells the course of each transaction. -/
theorem Chronicle.course (numbered : batch.Numbered)
    (chronicle : Chronicle batch start moment history) {transaction : OpenTransaction}
    (member : transaction ∈ batch) :
    ∃ takings waiting, Course transaction moment history takings waiting := by
  induction chronicle with
  | first => exact ⟨[], none, .first transaction start⟩
  | @send moment history chronicle sending progress bench step free agrees returned hypothesis =>
    obtain ⟨takings, waiting, course⟩ := hypothesis
    have held : sending.transaction ∈ batch :=
      (Sound.of_reached numbered (chronicle.reached.next step)).sent sending (by simp)
    obtain ⟨_, went⟩ := sendStatement_waits returned
    by_cases same : sending.transaction = transaction
    · subst same
      have nothing : waiting = none := by
        have empty := course.parked.symm.trans (Progress.canContinue_iff.1 free).1
        cases waiting with
        | none => rfl
        | some other => cases empty
      subst nothing
      split at went
      next late =>
        refine ⟨takings, some sending, ?_⟩
        rw [if_pos late]
        exact course.park (congrArg Progress.parked went.2)
      next prompt =>
        obtain ⟨finished, answered, recorded⟩ := went
        obtain ⟨progressed, _⟩ := record_returns recorded
        refine ⟨takings ++ [(sending, sending.waited)], none, ?_⟩
        rw [if_neg prompt]
        refine course.take ?_ _ rfl ?_ ?_ finished (record_answered recorded)
        · rw [List.filter_append, show moment.sendings.filter _ = _ from course.all]
          simp [Value.alike_refl]
        · exact fun _ => Sending.transaction_of_mem_sent false
        · rw [progressed, Progress.account_parked]
          exact course.parked
    · have apart : sending.transaction.id.alike transaction.id = false :=
        (numbered.id_isWhole held).not_alike (numbered.id_isWhole member) fun ids =>
          same (numbered.eq_of_id held member ids)
      refine ⟨takings, waiting, course.other apart (fun _ => Sending.transaction_of_mem_sent _) ?_ ?_⟩
      · rw [List.filter_append]
        simp [apart, Moment.sendingsOf]
      · split at went
        · rw [went.2]
          simp [Progress.park, Progress.noteSent, Progress.setSent, List.filter_append, Sending.parked,
            apart]
        · rw [(record_returns went.2.2).1, Progress.account_parked]
          rfl
  | @settle moment history chronicle earlier sending progress bench step last parked finished returned
      hypothesis =>
    obtain ⟨takings, waiting, course⟩ := hypothesis
    have held : sending.transaction ∈ batch :=
      (chronicle.settle earlier sending progress bench step last parked finished returned).transaction_mem
        numbered (.taken sending moment.bench) (List.mem_append_right _ List.mem_cons_self)
    obtain ⟨progressed, _⟩ := record_returns returned
    by_cases same : sending.transaction = transaction
    · subst same
      -- what is parked is the last statement that the transaction has sent
      have awaited : waiting = some sending := by
        have inside : sending.parked ∈ waiting.toList.map Sending.parked :=
          course.parked ▸ List.mem_filter.2 ⟨parked, Value.alike_refl _⟩
        cases waiting with
        | none => cases inside
        | some other =>
          have both : takings.map Prod.fst ++ [other] = earlier ++ [sending] :=
            course.all.symm.trans last
          rw [List.singleton_inj.1 (List.append_inj' both rfl).2]
      subst awaited
      refine ⟨takings ++ [(sending, moment.bench)], none, ?_⟩
      refine course.take course.all _ rfl (fun _ => Sending.transaction_of_mem_recorded) ?_
        (.inl finished) (record_answered returned)
      rw [progressed, Progress.account_parked]
      exact congrArg View.parked Progress.view_unpark
    · have whole := numbered.id_isWhole held
      have another := numbered.id_isWhole member
      have ids : sending.transaction.id ≠ transaction.id := fun ids =>
        same (numbered.eq_of_id held member ids)
      refine ⟨takings, waiting, course.other (whole.not_alike another ids)
        (fun _ => Sending.transaction_of_mem_recorded) rfl ?_⟩
      rw [progressed, Progress.account_parked]
      exact congrArg View.parked (Progress.view_unpark_other whole another ids
        ((Sound.of_reached numbered chronicle.reached).known.parked_whole numbered))
  | wait chronicle bench step still hypothesis =>
    obtain ⟨takings, waiting, course⟩ := hypothesis
    exact ⟨takings, waiting, ⟨course.all, course.told, course.parked, course.finished, course.answered⟩⟩

end Run

end SerialCheck

import SerialCheck.Proofs.Interleaved.Ending
import SerialCheck.Proofs.Interleaved.Exact
import SerialCheck.Proofs.Interleaved.Records

/-!
# Statements that do not complete

By an exact clock an interleaved run gives up waiting only for statements that are overdue: each has been
under way for at least the block timeout and the statement timeout together and is not finished yet,
and every other transaction has come to its end (`interleaved_stuck`). So a run in which no
connection is lost, no statement takes longer than that and no rollback takes longer than the statement
timeout returns a trace.
-/
namespace SerialCheck

/-- The session over which a text is sent is still open afterwards. -/
def Doing.LeavesOpen (doing : Doing) : Prop :=
  ∀ session message, doing.message? = some (session, message) →
    session.isClosed (doing.bench.scene.serverAfter session message) = false

/-- At the given time the statement has been under way for the given number of seconds and is not
finished. -/
structure Sending.Overdue (sending : Sending) (now : Number) (seconds : ℚ) : Prop where
  /-- It was sent long enough ago. -/
  sent : sending.bench.now.seconds + seconds ≤ now.seconds
  /-- It is not finished. -/
  unfinished : now.seconds < sending.bench.now.seconds + sending.reply.delay.seconds

/-- At the given time nothing can be done at a moment, for the given statements are overdue. -/
structure Moment.Stuck (batch : Batch) (moment : Moment) (now : Number) (seconds : ℚ)
    (statements : List Statement) : Prop where
  /-- The time is exact. -/
  exact : now.IsExact
  /-- The statements are those that are parked. -/
  listed : statements = moment.progress.parked.map Parked.statement
  /-- They were sent and are overdue. -/
  overdue : ∀ statement ∈ statements, ∃ sending ∈ moment.sendings,
    sending.statement = statement ∧ sending.Overdue now seconds
  /-- Of every other transaction all statements are recorded. -/
  recorded : ∀ transaction ∈ batch, (∀ statement ∈ statements, statement ∉ transaction.statements) →
    (moment.progress.trace.resultsOf transaction.id).map StatementResult.statement =
      transaction.statements

/-- The sessions of a batch are open, and no rule of the server ends a connection. -/
structure Scene.Linked (batch : Batch) (scene : Scene) : Prop where
  /-- The rules are proper. -/
  proper : scene.server.Proper
  /-- None ends a connection. -/
  holds : scene.server.Holds
  /-- The sessions are open. -/
  sessions : ∀ transaction ∈ batch, transaction.session.IsOpen scene.server

/-- Sending a text leaves the sessions open. -/
theorem Scene.Linked.send {batch : Batch} {scene : Scene} (linked : scene.Linked batch)
    (session : Session) (text : String) : (scene.send session (.text text)).Linked batch where
  proper := linked.proper.of_rules (session.policy_execute (.text text) scene.server)
  holds := linked.holds.of_rules (session.policy_execute (.text text) scene.server)
  sessions := fun transaction member =>
    (linked.sessions transaction member).execute linked.proper linked.holds session text

/-- So do the texts of a plain batch. -/
theorem Batch.Plain.preserves_linked {batch : Batch} (plain : batch.Plain) :
    batch.Preserves (Scene.Linked batch) where
  statement := by
    intro scene linked transaction member statement own
    obtain ⟨⟨text, said⟩, _⟩ := plain transaction member statement own
    rw [said]
    exact linked.send transaction.session text
  rollback := fun _ linked transaction _ => linked.send transaction.session Bench.rollbackText

namespace Run

variable {batch : Batch} {start : Bench} {station : Station} {doings last : List Doing} {doing : Doing}
  {block statement : ℚ}

/-- If the sessions are open when a run begins and no rule ends a connection, they stay open. -/
theorem Does.leavesOpen (does : Does batch start doing) (numbered : batch.Numbered)
    (plain : batch.Plain) (linked : start.scene.Linked batch) : doing.LeavesOpen := by
  have place := does.takesPlace numbered plain.preserves_linked linked
  intro session message sent
  have owner : ∃ transaction ∈ batch, transaction.session = session := by
    cases doing with
    | sends sending =>
      cases sent
      exact ⟨sending.transaction, place.isOf.1, rfl⟩
    | aborts transaction bench =>
      cases sent
      exact ⟨transaction, place.isOf, rfl⟩
    | waits => cases sent
  obtain ⟨transaction, member, rfl⟩ := owner
  obtain ⟨text, rfl⟩ := does.exists_text numbered plain sent
  obtain ⟨_, _, uses⟩ := (place.scene.send transaction.session text).sessions transaction member
  exact uses.not_isClosed

/-- What a run sends has an outcome if its session is still open afterwards. -/
theorem Does.answered (does : Does batch start doing) (numbered : batch.Numbered)
    (plain : batch.Plain) (proper : start.server.Proper) (opened : doing.LeavesOpen)
    {session : Session} {message : Value} (sent : doing.message? = some (session, message)) :
    ∃ outcome, (doing.bench.scene.reply session message).result = .ok outcome := by
  have still := opened session message sent
  obtain ⟨text, rfl⟩ := does.exists_text numbered plain sent
  exact (Session.tells (does.proper numbered proper) session text).answered still

/-- No fault of what a run sends is that of a wait. -/
theorem Does.not_stuck (does : Does batch start doing) (numbered : batch.Numbered)
    (plain : batch.Plain) (proper : start.server.Proper) {session : Session} {message : Value}
    (sent : doing.message? = some (session, message)) {timeout : Value}
    {statements : List Statement} : (doing.bench.scene.reply session message).result ≠
      .error (.session (.stuck timeout statements)) := by
  intro failed
  obtain ⟨text, rfl⟩ := does.exists_text numbered plain sent
  rcases Session.fault_eq (does.proper numbered proper) failed with impossible | ⟨_, impossible⟩
  · cases impossible
  · cases impossible

/-- What a transaction without a parked statement sees of what is parked. -/
theorem view_parked_of_not_mem {moment : Moment} (sound : Sound batch moment)
    (numbered : batch.Numbered) {transaction : OpenTransaction} (member : transaction ∈ batch)
    (apart : ∀ statement ∈ moment.progress.parked.map Parked.statement,
      statement ∉ transaction.statements) : (moment.progress.view transaction.id).parked = [] := by
  refine List.filter_eq_nil_iff.2 fun parked waiting alike => ?_
  obtain ⟨owner, known, named, own⟩ := sound.known.parked parked waiting
  rw [named] at alike
  obtain rfl := (numbered.alike_iff known member).1 alike
  exact apart parked.statement (List.mem_map_of_mem waiting) own

section

variable (numbered : batch.Numbered) (clock : ExactClock batch start block statement)

include numbered clock

/-- When a wait is over in vain, what is parked is overdue. -/
theorem Goes.overdue (goes : Goes batch start doings station)
    (does : Does batch start (.waits station.moment.bench)) {first : Parked} {others : List Parked}
    (parked : station.moment.progress.parked = first :: others) {limit : Number} {bench : Bench}
    (told : (deadline station.moment.bench.settings.statementTimeout).Returns station.moment.bench
      limit bench)
    (vain : waitsInVain first others limit station.moment.bench.now = true) :
    let now := waitedUntil first others limit station.moment.bench.now
    now.IsExact ∧ ∀ listed ∈ first :: others, ∃ sending ∈ station.moment.sendings,
      sending.statement = listed.statement ∧ sending.Overdue now (block + statement) := by
  obtain ⟨exact, sum⟩ := clock.limit numbered does (deadline_returns told).1
  obtain ⟨ended, unfinished⟩ := lt_of_waitsInVain
    (parked ▸ goes.parked_exact numbered clock) exact (goes.exact numbered clock) vain
  intro now
  have now_eq : now = limit := ended
  rw [now_eq]
  refine ⟨exact, fun listed inside => ?_⟩
  -- it was late before this wait began, and the wait took the whole statement timeout
  obtain ⟨sending, sent, late, rfl⟩ :=
    (goes.sound numbered).exists_sending numbered (parked ▸ inside)
  have before := goes.sent_before numbered clock sending sent late
  have finish : sending.parked.finish.seconds = _ :=
    (goes.finish_of_late numbered clock sent late).2
  have waited : limit.seconds = station.moment.bench.now.seconds + statement := sum
  refine ⟨sending, sent, rfl, ?_, ?_⟩
  · linarith
  · exact finish ▸ unfinished _ inside

variable (plain : batch.Plain) (proper : start.server.Proper)

include plain proper

/-- A run breaks off because of statements that are stuck only at a moment at which they are. -/
theorem Breaks.stuck_at {fault : Fault} {after : Bench}
    (breaks : Breaks batch station.moment last fault after) (goes : Goes batch start doings station)
    (does : ∀ doing ∈ last, Does batch start doing) {timeout : Value} {statements : List Statement}
    (given : fault = .session (.stuck timeout statements)) :
    timeout = start.settings.statementTimeout ∧
      station.moment.Stuck batch after.now (block + statement) statements := by
  cases breaks with
  | lost sending _ sent failed =>
    have done : Does batch start (.sends sending) :=
      sent.elim (fun earlier => goes.does ((goes.mem_sendings numbered).1 earlier)) (does _)
    exact (done.not_stuck numbered plain proper rfl (given ▸ failed)).elim
  | unanswered transaction bench _ aborts failed =>
    exact ((does _ aborts).not_stuck numbered plain proper rfl (given ▸ failed)).elim
  | late => cases given
  | stuck first others limit still parked waits told vain =>
    have waiting : Does batch start (.waits station.moment.bench) :=
      does _ (waits ▸ List.mem_singleton.2 rfl)
    have settings : station.moment.bench.settings = start.settings := waiting.settings numbered
    obtain ⟨exact, overdue⟩ := goes.overdue numbered clock waiting parked told vain
    injection given with cause
    injection cause with same listed
    subst listed
    refine ⟨same ▸ congrArg Settings.statementTimeout settings, exact, by rw [parked], ?_, ?_⟩
    · intro statement inside
      obtain ⟨listed, member, rfl⟩ := List.mem_map.1 inside
      exact overdue listed member
    · intro transaction member apart
      rw [← parked] at apart
      have sound := goes.sound numbered
      exact sound.statements_results still member
        (view_parked_of_not_mem sound numbered member apart)

/-- A run does not break off if its sessions stay open and nothing takes too long. -/
theorem Breaks.not_in_time {fault : Fault} {after : Bench}
    (breaks : Breaks batch station.moment last fault after) (goes : Goes batch start doings station)
    (does : ∀ doing ∈ last, Does batch start doing)
    (opened : ∀ doing, Does batch start doing → doing.LeavesOpen)
    (timely : ∀ sending, Does batch start (.sends sending) →
      sending.reply.delay.seconds ≤ block + statement)
    (rollbacks : ∀ transaction bench, Does batch start (.aborts transaction bench) →
      (rollbackReply transaction.session bench).delay.seconds ≤ statement) : False := by
  cases breaks with
  | lost sending _ sent failed =>
    have done : Does batch start (.sends sending) :=
      sent.elim (fun earlier => goes.does ((goes.mem_sendings numbered).1 earlier)) (does _)
    obtain ⟨outcome, fine⟩ := done.answered numbered plain proper (opened _ done) rfl
    cases fine.symm.trans failed
  | unanswered transaction bench _ aborts failed =>
    obtain ⟨outcome, fine⟩ :=
      (does _ aborts).answered numbered plain proper (opened _ (does _ aborts)) rfl
    cases fine.symm.trans failed
  | late transaction bench _ aborts overruns =>
    exact absurd (clock.lt_of_overruns numbered (does _ aborts) overruns)
      (not_lt.2 (rollbacks transaction bench (does _ aborts)))
  | stuck first others limit still parked waits told vain =>
    have waiting : Does batch start (.waits station.moment.bench) :=
      does _ (waits ▸ List.mem_singleton.2 rfl)
    obtain ⟨_, overdue⟩ := goes.overdue numbered clock waiting parked told vain
    obtain ⟨sending, sent, _, overdue⟩ := overdue first List.mem_cons_self
    have done := goes.does ((goes.mem_sendings numbered).1 sent)
    exact absurd overdue.unfinished
      (not_lt.2 ((add_le_add_right (timely sending done) _).trans overdue.sent))

end

end Run

/-- By an exact clock, an interleaved run of a plain batch on a server with proper rules returns a trace
if no session is closed by what it sends, no statement takes longer than the block timeout and the
statement timeout together, and no rollback after a lock conflict takes longer than the statement
timeout. Whatever the delays are, when it ends because statements did not complete, these were sent at
least both timeouts ago and are not finished, and all statements of the other transactions are
recorded. -/
theorem interleaved_stuck {batch : Batch} (numbered : batch.Numbered) (plain : batch.Plain)
    {start : Bench} (proper : start.server.Proper) {block statement : ℚ}
    (clock : Run.ExactClock batch start block statement) :
    ((∀ doing, Run.Does batch start doing → doing.LeavesOpen) →
        (∀ sending, Run.Does batch start (.sends sending) →
          sending.reply.delay.seconds ≤ block + statement) →
        (∀ transaction bench, Run.Does batch start (.aborts transaction bench) →
          (Run.rollbackReply transaction.session bench).delay.seconds ≤ statement) →
        ∃ trace after, (Run.interleaved batch).Returns start trace after) ∧
      ∀ timeout statements after,
        (Run.interleaved batch).Fails start (.session (.stuck timeout statements)) after →
          timeout = start.settings.statementTimeout ∧
            ∃ doings station, Run.Goes batch start doings station ∧
              station.moment.Stuck batch after.now (block + statement) statements := by
  obtain ⟨_, _, result, _, takes⟩ := Run.exists_takes numbered start
  have ran := takes.interleaved_eq numbered
  obtain @⟨doings, last, station, _, _, goes, ends⟩ := takes
  have does : ∀ doing ∈ last, Run.Does batch start doing := fun doing done => ends.does goes done
  have breaks : ∀ {fault after}, Run.Ends batch station last (.error fault) after →
      Run.Breaks batch station.moment last fault after := fun ends =>
    ends.breaks numbered (goes.sound numbered) (goes.tracks numbered).unseen plain
      fun doing done => (clock.adds doing (does doing done)).told
  refine ⟨fun opened timely rollbacks => ?_, fun timeout statements after failed => ?_⟩
  · cases result with
    | ok trace => exact ⟨trace, _, ran⟩
    | error fault =>
      exact ((breaks ends).not_in_time numbered clock plain proper goes does opened timely
        rollbacks).elim
  · cases ran.symm.trans failed
    obtain ⟨same, stuck⟩ := (breaks ends).stuck_at numbered clock plain proper goes does rfl
    exact ⟨same, doings, station, goes, stuck⟩

namespace Sample

/-- Under the sluggish rules the session of the single transaction stays open. -/
theorem sluggish_linked (row rollback : Int) :
    (patient (sluggish row rollback)).scene.Linked single where
  proper := sluggish_proper row rollback
  holds := by
    rintro rule listed ⟨kind, report, ends⟩
    obtain ⟨_, _, answer, _, rfl, given⟩ := eq_of_mem_sluggish listed
    rcases given with rfl | rfl <;> cases ends
  sessions := by
    intro transaction member
    rw [List.mem_singleton.1 member]
    exact ⟨1, {}, rfl, rfl, rfl⟩

/-- Nothing that is sent takes longer than thirty seconds if the rules say so. -/
theorem sluggish_delay {row rollback : Int} (short : row ≤ 30) (soon : rollback ≤ 30) {doing : Doing}
    (does : Run.Does single (patient (sluggish row rollback)) doing) {delay : Number}
    (takes : doing.delay? = some delay) : delay.seconds ≤ 30 := by
  have whole : ∀ seconds : Int, seconds ≤ 30 → (Number.whole seconds).seconds ≤ 30 := by
    intro seconds most
    rw [(Number.isExact_whole seconds).2]
    exact_mod_cast most
  rcases does.delay_of_rule single_numbered single_plain (sluggish_proper row rollback) takes with
    rfl | ⟨rule, listed, gives⟩
  · exact whole 0 (by decide)
  · obtain ⟨_, given, _, known, rfl, _⟩ := eq_of_mem_sluggish listed
    cases gives
    rcases known with rfl | rfl | rfl
    · exact whole _ short
    · exact whole 0 (by decide)
    · exact whole _ soon

/-- When adding a row takes a second longer than both timeouts, it is stuck. -/
theorem sluggish_fault :
    ((Run.interleaved single).fault? (patient (sluggish 32 30))).map
        (fun fault => match fault with
          | .session (.stuck _ statements) => statements.map Statement.text
          | _ => []) =
      some [.text "INSERT INTO t0 VALUES (1)"] := by decide +kernel

end Sample

/-- When adding a row takes as long as the statement timeout the run returns, although the rollback after
the next statement takes as long again; when it takes a second more than both timeouts, the run ends
because it is overdue. -/
theorem interleaved_stuck_sluggish :
    (∃ trace after, (Run.interleaved Sample.single).Returns (Sample.patient (Sample.sluggish 30 30))
        trace after) ∧
      ∃ statements doings station, ∃ after : Bench,
        Run.Goes Sample.single (Sample.patient (Sample.sluggish 32 30)) doings station ∧
          station.moment.Stuck Sample.single after.now (1 + 30) statements ∧
          statements.map Statement.text = [.text "INSERT INTO t0 VALUES (1)"] := by
  have clock : ∀ row rollback, Run.ExactClock Sample.single
      (Sample.patient (Sample.sluggish row rollback)) 1 30 := fun _ _ =>
    Sample.sluggish_clock ⟨rfl, rfl, rfl⟩
  constructor
  · refine (interleaved_stuck Sample.single_numbered Sample.single_plain
      (Sample.sluggish_proper 30 30) (clock 30 30)).1 (fun doing does => ?_) (fun sending does => ?_)
      fun transaction bench does => ?_
    · exact does.leavesOpen Sample.single_numbered Sample.single_plain (Sample.sluggish_linked 30 30)
    · exact (Sample.sluggish_delay (le_refl _) (le_refl _) does rfl).trans (by norm_num)
    · exact Sample.sluggish_delay (le_refl _) (le_refl _) does rfl
  · obtain ⟨fault, after, failed, seen⟩ := Task.fails_of_map Sample.sluggish_fault
    obtain ⟨timeout, statements, rfl, listed⟩ : ∃ timeout statements,
        fault = .session (.stuck timeout statements) ∧
          statements.map Statement.text = [.text "INSERT INTO t0 VALUES (1)"] := by
      split at seen
      next timeout statements => exact ⟨timeout, statements, rfl, seen⟩
      next => cases seen
    obtain ⟨_, doings, station, goes, stuck⟩ :=
      (interleaved_stuck Sample.single_numbered Sample.single_plain (Sample.sluggish_proper 32 30)
        (clock 32 30)).2 timeout statements after failed
    exact ⟨statements, doings, station, after, goes, stuck, listed⟩

end SerialCheck

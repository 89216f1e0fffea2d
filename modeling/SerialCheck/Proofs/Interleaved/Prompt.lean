import Mathlib.Algebra.Order.BigOperators.Group.List
import Mathlib.Algebra.Order.Ring.Nat
import SerialCheck.Proofs.Interleaved.Finished

/-!
# Runs without delays

On a server without rules every statement is answered at once. If no answer is an error, an interleaved
run then never parks a statement and never aborts a transaction, and as each step leaves fewer
statements to be sent it comes to its end (`Ready.prompt_run`).
-/
namespace SerialCheck

/-- Something that takes no time is finished at the time at which it begins. -/
def Number.IsSteady (now : Number) : Prop :=
  ∃ finish, Value.addNumbers now (.whole 0) = .ok finish ∧ finish.le now = true

/-- A whole number of seconds is such a time. -/
theorem Number.isSteady_whole (time : Int) : (Number.whole time).IsSteady :=
  ⟨.whole (time + 0), rfl, by simp [Number.le, Number.quantity?, Quantity.le]⟩

/-- Every data statement is about a table of the database. -/
def Transaction.IsAbout (transaction : Transaction) (base : Database) : Prop :=
  ∀ statement ∈ transaction.data, statement.touches base = true

/-- What is about a table of the database meets no error. -/
theorem Transaction.IsAbout.exists_answer {transaction : Transaction} {base : Database}
    (about : transaction.IsAbout base) (spoken : transaction.Spoken) {statement : Statement}
    (own : statement ∈ transaction.statements) (turns : List Turn) (id : Value) :
    ∃ rows, answerAt base turns id statement.command = .ok rows := by
  obtain ⟨place, found⟩ := List.mem_iff_getElem?.1 own
  rcases transaction.at_place found with ⟨_, rfl⟩ | ⟨_, _, inside⟩ | ⟨_, rfl⟩
  · rw [spoken.opening]
    exact ⟨none, rfl⟩
  · have touching := about statement inside
    unfold Statement.touches at touching
    split at touching
    next name writes =>
      rw [writes]
      exact ⟨none, answerAt_write (of_decide_eq_true touching)⟩
    next name reads =>
      obtain ⟨table, present⟩ := Option.isSome_iff_exists.1 (of_decide_eq_true touching)
      rw [reads]
      exact ⟨_, answerAt_read present⟩
    · cases touching
  · have closing := spoken.closing
    split at closing
    · rw [closing]
      exact ⟨none, rfl⟩
    · rw [closing]
      exact ⟨none, rfl⟩

/-- No statement of the run has been late. -/
structure Prompt (start : Bench) (moment : Moment) : Prop where
  /-- Nothing is parked. -/
  parked : moment.progress.parked = []
  /-- Statements are recorded in the order in which they are sent. -/
  recorded : moment.progress.trace.results.map (·.statement) = moment.sendings.map (·.statement)
  /-- There are no rules. -/
  quiet : moment.bench.server.rules = []
  /-- No time has passed. -/
  now : moment.bench.now = start.now
  /-- Every statement was there in time. -/
  early : ∀ sending ∈ moment.sendings, sending.isLate = false

/-- The number of statements that are left to be sent. -/
def Progress.left (progress : Progress) (batch : Batch) : Nat :=
  (batch.map fun transaction => transaction.size - progress.sent transaction.id).sum

namespace Progress

variable {progress : Progress} {transaction : OpenTransaction} {statement : Statement}
  {outcome : Outcome}

/-- A statement without a lock conflict is counted once. -/
theorem sent_account (calm : outcome.conflicts = false) (blocked : Bool) (id : Value) :
    ((progress.noteSent transaction statement).account transaction statement outcome blocked).sent id =
      if id.alike transaction.id then progress.sent transaction.id + 1 else progress.sent id := by
  have ended : ∀ noted : Progress, (Run.noteEnd transaction statement noted).sent = noted.sent := by
    intro noted
    unfold Run.noteEnd
    split <;> rfl
  rw [account, ended, calm]
  rfl

/-- Its result is recorded after those that were there. -/
theorem results_account (calm : outcome.conflicts = false) (blocked : Bool) :
    ((progress.noteSent transaction statement).account transaction statement outcome
        blocked).trace.results =
      progress.trace.results ++ [Run.resultOf statement outcome blocked] := by
  have ended : ∀ noted : Progress,
      (Run.noteEnd transaction statement noted).trace.results = noted.trace.results := by
    intro noted
    unfold Run.noteEnd
    split <;> rfl
  have noted : (progress.noteSent transaction statement).trace.results = progress.trace.results := by
    unfold noteSent Run.noteSnapshot
    split <;> rfl
  rw [account, ended, calm, ← noted]
  rfl

/-- Then fewer statements are left. -/
theorem left_account {batch : Batch} (member : transaction ∈ batch)
    (within : progress.sent transaction.id < transaction.size) (numbered : batch.Numbered)
    (calm : outcome.conflicts = false) (blocked : Bool) :
    ((progress.noteSent transaction statement).account transaction statement outcome blocked).left
      batch < progress.left batch := by
  refine List.sum_lt_sum _ _ (fun other inside => ?_) ⟨transaction, member, ?_⟩
  · rw [sent_account calm]
    split
    next alike =>
      rw [(numbered.alike_iff inside member).1 alike]
      omega
    · exact Nat.le_refl _
  · rw [sent_account calm, if_pos (Value.alike_refl _)]
    omega

/-- All statements are left when a run begins. -/
theorem left_first (batch : Batch) : Progress.left {} batch = batch.statementCount := by
  induction batch with
  | nil => rfl
  | cons transaction rest hypothesis =>
    rw [left, List.map_cons, List.sum_cons, Batch.statementCount, ← hypothesis]
    rfl

end Progress

namespace Run

/-- There is always a choice. -/
theorem exists_pick (first : OpenTransaction) (others : Batch) (bench : Bench) :
    ∃ transaction after, (pick first others).Returns bench transaction after := by
  unfold pick
  simp only [Task.returns_get_bind]
  cases bench.schedule with
  | none => exact ⟨_, _, Task.returns_draw.2 ⟨rfl, rfl⟩⟩
  | some schedule =>
    simp only [Task.returns_bind, Task.returns_set, Task.returns_pure]
    exact ⟨_, _, (), _, rfl, rfl, rfl⟩

/-- An outcome without an error is recorded. -/
theorem record_of_succeeded {transaction : OpenTransaction} {statement : Statement}
    {outcome : Outcome} (fine : outcome.error = none) (blocked : Bool) (progress : Progress)
    (bench : Bench) :
    (record transaction statement outcome blocked progress).Returns bench
      (progress.account transaction statement outcome blocked) bench := by
  have calm : outcome.conflicts = false := by rw [Outcome.conflicts, fine]; rfl
  simp only [record, reportUnexpected, fine, Task.returns_bind, Task.returns_pure]
  refine ⟨(), bench, ⟨trivial, rfl⟩, _, bench, ⟨rfl, rfl⟩, ?_, rfl⟩
  simp [Progress.account, calm, Progress.withResult]

/-- A statement that is answered at once without an error is recorded at once. -/
theorem sendStatement_prompt {transaction : OpenTransaction} {statement : Statement}
    {progress : Progress} {bench : Bench} {outcome : Outcome}
    (steady : bench.now.IsSteady)
    (atOnce : (bench.scene.reply transaction.session statement.text).delay = .whole 0)
    (answered : (bench.scene.reply transaction.session statement.text).result = .ok outcome)
    (fine : outcome.error = none) :
    (sendStatement transaction statement progress).Returns bench
      ((progress.noteSent transaction statement).account transaction statement outcome false)
      (bench.afterSending transaction.session statement.text) := by
  obtain ⟨finish, added, there⟩ := steady
  have awaited : ∀ timeout, (await finish timeout).Returns
      (bench.afterSending transaction.session statement.text) true
      (bench.afterSending transaction.session statement.text) := by
    intro timeout
    unfold await
    rw [Task.returns_get_bind, Bench.afterSending_now, if_pos there]
    exact Task.returns_pure.2 ⟨rfl, rfl⟩
  simp only [sendStatement, Task.returns_bind, Bench.send_returns, finishTime_returns,
    Task.returns_get]
  refine ⟨_, _, ⟨rfl, rfl⟩, finish, _, ⟨by rw [atOnce]; exact added, rfl⟩, _, _, ⟨rfl, rfl⟩, true,
    _, awaited _, ?_⟩
  simp only [↓reduceIte, Task.returns_bind, Task.returns_release]
  exact ⟨outcome, _, ⟨answered, rfl⟩, record_of_succeeded fine false _ _⟩

end Run

section

variable {start : Bench} {batch : Batch} {admin : Session} {base : Database} {moment : Moment}

/-- While there is a transaction that can continue, one is chosen and its next statement is answered at
once; then fewer statements are left. -/
theorem Prompt.exists_send (prompt : Prompt start moment) (cast : batch.Cast admin)
    (sound : Sound batch moment) (tracked : Tracked start batch admin base moment)
    (steady : start.now.IsSteady) (about : ∀ transaction ∈ batch, transaction.IsAbout base)
    {first : OpenTransaction} {others : Batch}
    (runnable : moment.progress.runnable batch = first :: others) :
    ∃ transaction chosen after, (Run.pick first others).Returns moment.bench transaction chosen ∧
      (Run.sendNext transaction moment.progress).Returns chosen after.progress after.bench ∧
        Run.Next batch moment after ∧ Prompt start after ∧
          after.progress.left batch < moment.progress.left batch := by
  obtain ⟨transaction, chosen, picked⟩ := Run.exists_pick first others moment.bench
  obtain ⟨listed, agrees⟩ := Run.pick_returns picked
  have inside : transaction ∈ moment.progress.runnable batch := runnable ▸ listed
  obtain ⟨member, free⟩ := Progress.mem_runnable.1 inside
  have within : moment.progress.sent transaction.id < transaction.size :=
    (Progress.canContinue_iff.1 free).2
  obtain ⟨statement, next⟩ : ∃ statement,
      transaction.statements[moment.progress.sent transaction.id]? = some statement :=
    ⟨_, List.getElem?_eq_getElem within⟩
  have own : statement ∈ transaction.statements := List.mem_of_getElem? next
  obtain ⟨answered, _⟩ := tracked.answered cast sound inside agrees next
  obtain ⟨rows, answer⟩ := (about transaction member).exists_answer (cast.spoken transaction member)
    own (moment.sendings.map Sending.turn) transaction.id
  rw [answer] at answered
  obtain ⟨text, said⟩ := (cast.spoken transaction member).text statement own
  have without : chosen.server.rules = [] := by rw [agrees.server, prompt.quiet]
  obtain ⟨atOnce, quiet⟩ :
      (chosen.scene.reply transaction.session statement.text).delay = .whole 0 ∧
        (chosen.scene.serverAfter transaction.session statement.text).rules = [] := by
    rw [said]
    exact Session.execute_quiet without text
  have now : chosen.now = start.now := agrees.now.trans prompt.now
  have fine : (Outcome.ofAnswer (.ok rows)).error = none := rfl
  have sent : (Run.sendStatement transaction statement moment.progress).Returns chosen _ _ :=
    Run.sendStatement_prompt (now ▸ steady) atOnce answered fine
  let sending : Sending := ⟨transaction, statement, chosen⟩
  have early : sending.isLate = false := by
    obtain ⟨finish, added, there⟩ := steady
    have delay : sending.reply.delay = .whole 0 := atOnce
    have sum : Value.addNumbers sending.bench.now sending.reply.delay = .ok finish := by
      rw [delay, show sending.bench.now = start.now from now, added]
    rw [Sending.isLate, sum]
    simp only [Except.toOption, Option.any_some]
    unfold Run.outlasts
    split
    · rfl
    · rw [show sending.bench.now = start.now from now, there]
      rfl
  refine ⟨transaction, chosen, ⟨_, _, moment.sendings ++ [sending]⟩, picked, ?_,
    .send first others transaction statement chosen _ _ runnable picked next sent,
    ⟨?_, ?_, quiet, now, ?_⟩, Progress.left_account member within cast.numbered rfl false⟩
  · unfold Run.sendNext
    rw [next]
    exact sent
  · rw [Progress.account_parked]
    exact prompt.parked
  · rw [Progress.results_account rfl, List.map_append, List.map_append, prompt.recorded]
    rfl
  · intro other held
    rcases List.mem_append.1 held with before | new
    · exact prompt.early other before
    · rw [List.mem_singleton.1 new]
      exact early

/-- As long as nothing is parked there is one way to go on. -/
theorem Run.Next.unique {left right : Moment} (nothing : moment.progress.parked = [])
    (one : Next batch moment left) (two : Next batch moment right) : left = right := by
  cases one with
  | settle parked _ _ _ _ waiting =>
    rw [nothing] at waiting
    cases waiting
  | wait first others _ parked =>
    rw [nothing] at parked
    cases parked
  | send first others transaction statement chosen progress bench runnable picked next sent =>
    cases two with
    | settle parked _ _ _ _ waiting =>
      rw [nothing] at waiting
      cases waiting
    | wait first others _ parked =>
      rw [nothing] at parked
      cases parked
    | send _ _ _ _ _ _ _ runnable' picked' next' sent' =>
      cases runnable.symm.trans runnable'
      obtain ⟨rfl, rfl⟩ := picked.unique picked'
      cases next.symm.trans next'
      obtain ⟨rfl, rfl⟩ := sent.unique sent'
      rfl

/-- What comes right after a prompt moment is prompt. -/
theorem Prompt.next (prompt : Prompt start moment) (cast : batch.Cast admin)
    (sound : Sound batch moment) (tracked : Tracked start batch admin base moment)
    (steady : start.now.IsSteady) (about : ∀ transaction ∈ batch, transaction.IsAbout base)
    {after : Moment} (step : Run.Next batch moment after) : Prompt start after := by
  cases runnable : moment.progress.runnable batch with
  | nil =>
    cases step with
    | settle parked _ _ _ _ waiting =>
      rw [prompt.parked] at waiting
      cases waiting
    | wait first others _ parked =>
      rw [prompt.parked] at parked
      cases parked
    | send _ _ _ _ _ _ _ runnable' => cases runnable.symm.trans runnable'
  | cons first others =>
    obtain ⟨_, _, _, _, _, next, still, _⟩ :=
      prompt.exists_send cast sound tracked steady about runnable
    rw [step.unique prompt.parked next]
    exact still

/-- On a bench without rules every moment of a run is prompt. -/
theorem Prompt.of_reached (cast : batch.Cast admin) (steady : start.now.IsSteady)
    (about : ∀ transaction ∈ batch, transaction.IsAbout base)
    (underway : Underway start batch admin base [] (fun _ => False) start)
    (quiet : start.server.rules = []) (reached : Run.Reached batch start moment) :
    Prompt start moment := by
  induction reached with
  | first => exact ⟨rfl, rfl, quiet, rfl, by simp [Moment.first]⟩
  | next reached step prompt =>
    exact prompt.next cast (Sound.of_reached cast.numbered reached)
      (Tracked.of_reached cast underway reached) steady about step

/-- So the steps come to a final moment. -/
theorem Run.steps_prompt (cast : batch.Cast admin) (steady : start.now.IsSteady)
    (about : ∀ transaction ∈ batch, transaction.IsAbout base)
    (underway : Underway start batch admin base [] (fun _ => False) start)
    (quiet : start.server.rules = []) (reached : Reached batch start moment) {count : Nat}
    (enough : moment.progress.left batch < count) :
    ∃ last : Moment, Reached batch start last ∧ last.Final batch ∧
      (steps batch count moment.progress).Returns moment.bench last.progress.trace last.bench := by
  induction count generalizing moment with
  | zero => exact absurd enough (Nat.not_lt_zero _)
  | succ count hypothesis =>
    have prompt : Prompt start moment := .of_reached cast steady about underway quiet reached
    have settled : (settle batch moment.progress.parked moment.progress).Returns moment.bench
        moment.progress moment.bench := by
      rw [prompt.parked]
      exact Task.returns_pure.2 ⟨rfl, rfl⟩
    cases runnable : moment.progress.runnable batch with
    | nil =>
      refine ⟨moment, reached, ⟨runnable, prompt.parked⟩, ?_⟩
      rw [steps, Task.returns_bind]
      refine ⟨_, _, settled, ?_⟩
      simp only [runnable, prompt.parked]
      exact Task.returns_pure.2 ⟨rfl, rfl⟩
    | cons first others =>
      obtain ⟨transaction, chosen, after, picked, sent, next, _, fewer⟩ := prompt.exists_send cast
        (Sound.of_reached cast.numbered reached) (Tracked.of_reached cast underway reached) steady
        about runnable
      obtain ⟨last, come, final, returned⟩ := hypothesis (.next reached next) (by omega)
      refine ⟨last, come, final, ?_⟩
      rw [steps, Task.returns_bind]
      refine ⟨_, _, settled, ?_⟩
      simp only [runnable, Task.returns_bind]
      exact ⟨transaction, chosen, picked, _, _, sent, returned⟩

/-- One moment of a prompt run comes right after another one. -/
def Run.Follows (batch : Batch) (moment after : Moment) : Prop :=
  moment.progress.parked = [] ∧ Next batch moment after

/-- Every moment of a prompt run is reached step by step. -/
theorem Run.Reached.path (prompt : ∀ moment, Reached batch start moment → Prompt start moment)
    (reached : Reached batch start moment) :
    Relation.ReflTransGen (Follows batch) (.first start) moment := by
  induction reached with
  | first => exact .refl
  | next reached step path => exact path.tail ⟨(prompt _ reached).parked, step⟩

/-- What comes later has sent what was sent before. -/
theorem Run.Follows.sendings_prefix {after : Moment}
    (path : Relation.ReflTransGen (Follows batch) moment after) :
    moment.sendings <+: after.sendings := by
  induction path with
  | refl => exact List.prefix_refl _
  | tail _ step earlier =>
    refine earlier.trans ?_
    obtain ⟨_, next⟩ := step
    cases next with
    | settle => exact List.prefix_refl _
    | send => exact List.prefix_append _ _
    | wait => exact List.prefix_refl _

/-- A prompt run ends in one way: what is sent at any moment is sent by its end. -/
theorem Run.Reached.sendings_prefix
    (prompt : ∀ moment, Reached batch start moment → Prompt start moment)
    (reached : Reached batch start moment) {last : Moment} (come : Reached batch start last)
    (final : last.Final batch) : moment.sendings <+: last.sendings := by
  have unique : Relator.RightUnique (Follows batch) := fun _ _ _ one two =>
    one.2.unique one.1 two.2
  rcases (reached.path prompt).total_of_right_unique unique (come.path prompt) with ahead | behind
  · exact Follows.sendings_prefix ahead
  · rcases behind.cases_head with rfl | ⟨_, ⟨parked, step⟩, _⟩
    · exact List.prefix_refl _
    · cases step with
      | settle _ _ _ _ _ waiting =>
        rw [parked] at waiting
        cases waiting
      | wait _ _ _ waiting =>
        rw [parked] at waiting
        cases waiting
      | send _ _ _ _ _ _ _ runnable => cases final.still.symm.trans runnable

end

/-- A moment at which a prompt run ends: all that was sent before was sent by then, and the trace lists it
in that order. -/
structure PromptEnd (batch : Batch) (bench : Bench) (last : Moment) : Prop where
  /-- The run passes through it. -/
  passes : Run.Passes batch bench last
  /-- Every statement was there in time. -/
  early : ∀ sending ∈ last.sendings, sending.isLate = false
  /-- Statements are recorded in the order in which they are sent. -/
  recorded : last.progress.trace.results.map (·.statement) = last.sendings.map (·.statement)
  /-- It is the end of every way that the run can go. -/
  final : ∀ moment, Run.Passes batch bench moment → moment.sendings <+: last.sendings

/-- On a ready bench without rules an interleaved run of transactions that are about its tables returns,
and no statement of it is late. -/
theorem Ready.prompt_run {ground : Ground} {batch : Batch} {bench : Bench}
    (ready : Ready ground batch bench) (sound : ground.Sound) (cast : batch.Cast ground.admin)
    (steady : bench.now.IsSteady) (quiet : bench.server.rules = [])
    (about : ∀ transaction ∈ batch, transaction.IsAbout ground.base) :
    ∃ last after, PromptEnd batch bench last ∧ Finished ground.base batch last ∧
      (Run.run batch .interleaved none .null).Returns bench (last.traceOn ground) after ∧
        Ready ground batch after := by
  obtain ⟨start, database, prepared, begins, spares⟩ := ready.prepare sound cast.apart .interleaved
  have without : start.server.rules = [] := spares.quiet quiet
  have still : start.now.IsSteady := spares.now ▸ steady
  have there : ∀ transaction ∈ batch, transaction.IsAbout database := by
    intro transaction member statement inside
    rw [begins.restored.statement_eq.2]
    exact about transaction member statement inside
  have enough : Progress.left {} batch < Run.stepLimit batch start.server.rules := by
    rw [Progress.left_first, without]
    show batch.statementCount < (2 * batch.statementCount + 1) * (0 + 1000)
    omega
  have prompt : ∀ moment, Run.Reached batch start moment → Prompt start moment := fun _ =>
    .of_reached cast still there begins.underway without
  obtain ⟨last, reached, final, returned⟩ :=
    Run.steps_prompt cast still there begins.underway without .first enough
  obtain ⟨finished, after, read, ends⟩ := begins.finished sound cast reached final
  refine ⟨last, after, ⟨⟨start, prepared, reached⟩, (prompt last reached).early,
    (prompt last reached).recorded, ?_⟩, finished, ?_, ends⟩
  · rintro moment ⟨begun, other, come⟩
    rw [(other.unique prepared).2] at come
    exact come.sendings_prefix prompt reached final
  · refine Run.run_returns.2
      ⟨start, _, _, _, prepared, cast.numbered.unfit?_eq_none, ?_, read, rfl⟩
    rw [Run.byStrategy, Run.interleaved, Task.returns_get_bind]
    exact returned

end SerialCheck

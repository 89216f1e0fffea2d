import SerialCheck.Proofs.SnapshotOrder
import SerialCheck.Proofs.WriteSkew

/-!
# Schedules without overlap

In an interleaved run in which no transaction takes its snapshot while another one works, the work of the
transactions does not overlap. The preferred order then begins with the order of their snapshots, so that
the serial run in it repeats what each transaction saw, and the check is consistent however few orders
may be tried (`checkBatch_in_sequence`). Opening statements and transactions without data
statements may come anywhere.
-/
namespace SerialCheck

/-- The statement ends its transaction: it is the closing one, or the engine aborts the transaction
there. -/
def Sending.ends (sending : Sending) : Bool :=
  sending.statement.kind.isTerminal || sending.outcome.conflicts

/-- No transaction sends its first data statement between the first data statement of another one and
the statement that ends that one. -/
def Moment.InSequence (moment : Moment) : Prop :=
  ∀ earlier sending later, moment.sendings = earlier ++ sending :: later →
    sending.statement.takesSnapshot = true → ∀ other ∈ earlier,
      other.statement.takesSnapshot = true → other.transaction ≠ sending.transaction →
        ∃ ending ∈ earlier, ending.transaction = other.transaction ∧ ending.ends = true

/-- Only the last statement of a transaction ends it. -/
theorem Transaction.not_isTerminal (transaction : Transaction) {sent rest : List Statement}
    (all : transaction.statements = sent ++ rest) (left : rest ≠ []) :
    ∀ statement ∈ sent, statement.kind.isTerminal = false := by
  intro statement inside
  have front : statement ∈ transaction.opening :: transaction.data := by
    have whole : (transaction.opening :: transaction.data) ++ [transaction.closing] =
        sent ++ rest := all
    obtain ⟨others, last, rfl⟩ := (List.eq_nil_or_concat rest).resolve_left left
    rw [List.concat_eq_append, ← List.append_assoc] at whole
    rw [(List.append_inj' whole rfl).1]
    exact List.mem_append_left _ inside
  rcases List.mem_cons.1 front with rfl | data
  · rw [transaction.opens]
    rfl
  · have kind := transaction.dataOnly statement data
    cases word : statement.kind <;>
      simp_all [StatementKind.isControl, StatementKind.isTerminal]

section

variable {batch : Batch} {start : Bench} {moment : Moment}

/-- What an outcome changes is not the order of the snapshots. -/
@[simp] theorem Progress.account_snapshotOrder (progress : Progress)
    (transaction : OpenTransaction) (statement : Statement) (outcome : Outcome) (blocked : Bool) :
    (progress.account transaction statement outcome blocked).trace.snapshotOrder =
      progress.trace.snapshotOrder := by
  have ended : ∀ noted : Progress, (Run.noteEnd transaction statement noted).trace.snapshotOrder =
      noted.trace.snapshotOrder := by
    intro noted
    unfold Run.noteEnd
    split <;> rfl
  unfold account
  rw [ended]
  split <;> rfl

/-- The order of the snapshots grows by a statement that takes one. -/
@[simp] theorem Progress.noteSent_snapshotOrder (progress : Progress)
    (transaction : OpenTransaction) (statement : Statement) :
    (progress.noteSent transaction statement).trace.snapshotOrder =
      progress.trace.snapshotOrder ++ (takers [⟨transaction, statement⟩]).map (·.id) := by
  unfold noteSent Run.noteSnapshot takers
  split
  next takes => simp [takes, Trace.snapshotBy, setSent]
  next other => simp [other, setSent]

/-- The transactions are listed in the order in which they took their snapshots. -/
theorem Run.Reached.snapshotOrder (reached : Reached batch start moment) :
    moment.progress.trace.snapshotOrder = (takers moment.turns).map (·.id) := by
  induction reached with
  | first => rfl
  | @next moment after _ step before =>
    cases step with
    | settle parked transaction outcome progress bench waiting finished found answered recorded =>
      rw [(record_returns recorded).1, Progress.account_snapshotOrder]
      exact before
    | wait first others bench parked none waited => exact before
    | send first others transaction statement chosen progress bench runnable picked next sent =>
      have turns : (Moment.mk progress bench
          (moment.sendings ++ [⟨transaction, statement, chosen⟩])).turns =
            moment.turns ++ [⟨transaction, statement⟩] := by
        rw [Moment.turns, List.map_append]
        rfl
      have noted : progress.trace.snapshotOrder =
          (moment.progress.noteSent transaction statement).trace.snapshotOrder := by
        obtain ⟨waited, _, went⟩ := sendStatement_returns sent
        split at went
        · rw [went.2]
          rfl
        · rw [(record_returns went.2).1, Progress.account_snapshotOrder]
      rw [turns, takers_append, List.map_append, ← before]
      show progress.trace.snapshotOrder = _
      rw [noted, Progress.noteSent_snapshotOrder]

end

namespace Finished

variable {base : Database} {batch : Batch} {moment : Moment} {transaction : OpenTransaction}

/-- In a run that is finished every transaction has taken its statements in order. -/
theorem takes (finished : Finished base batch moment) (numbered : batch.Numbered)
    (spoken : ∀ transaction ∈ batch, transaction.Spoken) : batch.Takes moment.turns where
  numbered := numbered
  spoken := spoken
  known := finished.known
  inOrder := fun _ => finished.inOrder

/-- A transaction sends nothing after the statement that ends it. -/
theorem ended (finished : Finished base batch moment) {earlier later : List Sending}
    {ending : Sending} (all : moment.sendings = earlier ++ ending :: later) (ends : ending.ends = true) :
    ∀ further ∈ later, further.transaction ≠ ending.transaction := by
  intro further inside same
  have member : ending.transaction ∈ batch := finished.sound.sent ending (by rw [all]; simp)
  obtain ⟨between, rest, rfl⟩ := List.append_of_mem inside
  let id := ending.transaction.id
  have own : ending.transaction.id.alike id = true := Value.alike_refl _
  have theirs : further.transaction.id.alike id = true := same ▸ own
  -- what the transaction has sent up to the end, and what it has sent then
  let before := earlier.filter (·.transaction.id.alike id) ++ [ending]
  let behind := between.filter (·.transaction.id.alike id) ++
    further :: rest.filter (·.transaction.id.alike id)
  have sent : moment.sendingsOf id = before ++ behind := by
    rw [Moment.sendingsOf, all]
    simp [before, behind, List.filter_append, own, theirs]
  have left : behind ≠ [] := by simp [behind]
  rcases Bool.or_eq_true _ _ ▸ ends with terminal | conflict
  · obtain ⟨others, cover⟩ := finished.inOrder member
    rw [Moment.turns, moment.statementsOf_turns, sent, List.map_append, List.append_assoc] at cover
    have open_ := ending.transaction.not_isTerminal cover.symm (by simp [left]) ending.statement
      (List.mem_map_of_mem (by simp [before]))
    rw [open_] at terminal
    cases terminal
  · have calm : ending.outcome.conflicts = false := by
      rcases finished.final.ended finished.sound member with
        ⟨stands, _⟩ | ⟨front, last, parts, stands⟩
      · exact (stands.calm ending (by rw [sent]; simp [before])).calm
      · obtain ⟨some, final, cut⟩ := (List.eq_nil_or_concat behind).resolve_left left
        rw [sent, cut, List.concat_eq_append, ← List.append_assoc] at parts
        have equal := (List.append_inj' parts rfl).1
        exact (stands.calm ending (by rw [← equal]; simp [before])).calm
    rw [calm] at conflict
    cases conflict

/-- In a run without overlap the work of the transactions does not overlap. -/
theorem consecutive (finished : Finished base batch moment) (sequence : moment.InSequence) :
    Consecutive moment.turns := by
  intro earlier turn later cut snapshot taker taken apart further inside
  obtain ⟨before, behind, all, rfl, tail⟩ := List.map_eq_append_iff.1 cut
  obtain ⟨sending, after, rfl, rfl, rfl⟩ := List.map_eq_cons_iff.1 tail
  obtain ⟨_, held, takes, rfl⟩ := mem_takers.1 taken
  obtain ⟨other, sent, rfl⟩ := List.mem_map.1 held
  obtain ⟨ending, there, same, ends⟩ := sequence before sending after all snapshot other sent takes
    apart
  obtain ⟨front, middle, rfl⟩ := List.append_of_mem there
  obtain ⟨last, listed, rfl⟩ := List.mem_map.1 inside
  rw [List.append_assoc, List.cons_append] at all
  show last.transaction ≠ other.transaction
  rw [← same]
  exact finished.ended all ends last (by simp [listed])

/-- After a run without overlap the preferred order is that of the snapshots, followed by the
transactions that took none. -/
theorem preferred_eq {ground : Ground} (finished : Finished ground.base batch moment)
    (cast : batch.Cast ground.admin) {start : Bench} (reached : Run.Reached batch start moment) :
    ∃ others, (takers moment.turns ++ others).Perm batch ∧
      Order.preferred batch.ids (some (moment.traceOn ground)) =
        (takers moment.turns ++ others).map (·.id) := by
  have numbered := cast.numbered
  have takes := finished.takes numbered cast.spoken
  have snapshots : (moment.traceOn ground).snapshotOrder = (takers moment.turns).map (·.id) :=
    reached.snapshotOrder
  have once : ((takers moment.turns).map (·.id)).Nodup :=
    (List.nodup_map_iff_inj_on takes.takers_nodup).2 fun one first other second =>
      numbered.eq_of_id (takes.takers_known one first) (takes.takers_known other second)
  obtain ⟨order, permuted, ids⟩ := Order.exists_order (finished.preferred_perm numbered)
  have begins : (moment.traceOn ground).snapshotOrder <+:
      Order.preferred batch.ids (some (moment.traceOn ground)) :=
    Order.snapshots_prefix_preferred (fun _ => numbered.isWhole_of_mem_ids)
      finished.sound.known.snapshots (snapshots ▸ once)
  obtain ⟨rest, all⟩ := begins
  rw [ids, snapshots] at all
  obtain ⟨front, others, rfl, same, _⟩ := List.map_eq_append_iff.1 all.symm
  have equal : front = takers moment.turns := numbered.eq_of_ids
    (fun one inside => permuted.subset (List.mem_append_left _ inside)) takes.takers_known same
  rw [equal] at ids permuted
  exact ⟨others, permuted, ids⟩

end Finished

/-- When an interleaved run without overlap has ended, the serial run in the preferred order is consistent
with it. -/
theorem Bench.Suits.replayed_in_sequence {batch : Batch} {bench between : Bench} {test : Trace}
    {moment : Moment} (suits : bench.Suits batch) (generated : batch.Generated)
    (ends : Run.EndsAt batch bench test between moment) (sequence : moment.InSequence) :
    between.settings = bench.settings ∧
      (Order.preferred batch.ids (some test)).length = batch.length ∧
      ∃ serial after, (Run.run batch .serialized (some test)
          (.array (Order.preferred batch.ids (some test)))).Returns between serial after ∧
        (∀ result ∈ test.results, result.isBlocked = false →
          (result.isLockConflict = .ok false ∧ serial.resultFor? result.statement = some result) ∨
            (result.isLockConflict = .ok true ∧
              serial.resultFor? result.statement = some (Run.skipped result.statement false))) ∧
          serial.finalState = test.finalState ∧
            Comparison.compare test serial = .ok .consistent := by
  obtain ⟨ground, sound, cast, settings, finished, rfl, ready⟩ := suits.ended generated ends
  obtain ⟨others, permuted, order⟩ := finished.preferred_eq cast ends.passes.choose_spec.2
  have repeats := (finished.consecutive sequence).repeats
    (finished.takes cast.numbered cast.spoken) (finished.closed cast.spoken) permuted
  obtain ⟨serial, after, ran, _, rest⟩ := finished.repeated sound cast repeats ready
  rw [← order] at ran
  exact ⟨ready.settings.trans settings,
    (finished.preferred_perm cast.numbered).length_eq.trans (List.length_map _),
    serial, after, ran, rest⟩

/-- If no transaction sends its first data statement while another one is between its own first data
statement and its end, the serial run in the preferred order returns: it has the same result for every
statement that was not blocked, but for a lock conflict, which aborts the transaction and is skipped
there, and it leaves the same contents in the tables. So the check is consistent, even if no other
order may be tried. -/
theorem checkBatch_in_sequence {batch : Batch} {bench between : Bench} {test : Trace}
    {moment : Moment} (generated : batch.Generated) (suits : bench.Suits batch)
    (returned : (Run.run batch .interleaved none .null).Returns (bench.noting batch) test between)
    (ends : Run.EndsAt batch (bench.noting batch) test between moment)
    (sequence : moment.InSequence) :
    (∃ serial after, (Run.run batch .serialized (some test)
        (.array (Order.preferred batch.ids (some test)))).Returns between serial after ∧
      (∀ result ∈ test.results, result.isBlocked = false →
        (result.isLockConflict = .ok false ∧ serial.resultFor? result.statement = some result) ∨
          (result.isLockConflict = .ok true ∧
            serial.resultFor? result.statement = some (Run.skipped result.statement false))) ∧
        serial.finalState = test.finalState) ∧
      ∀ limit, Order.limitOf bench.settings.maxOrders batch.length = .ok limit →
        ∃ after, (Check.checkBatch batch).Returns bench .consistent after := by
  obtain ⟨settings, length, serial, after, ran, results, tables, compared⟩ :=
    suits.noting.replayed_in_sequence generated ends sequence
  refine ⟨⟨serial, after, ran, results, tables⟩, fun limit limited => ⟨after, ?_⟩⟩
  refine Check.checkBatch_returns.2 ⟨test, between, limit, returned, ?_,
    Check.searchOrders_of_consistent ran compared⟩
  rw [settings, length]
  exact limited

namespace Sample

/-- Where a statement takes a snapshot, every other transaction that has taken one before has sent its
closing statement. -/
def sequenced : List Statement → List Statement → Bool
  | _, [] => true
  | before, statement :: rest =>
    (!statement.takesSnapshot || before.all fun other => !other.takesSnapshot ||
        decide (other.transaction = statement.transaction) || before.any fun ending =>
          decide (ending.transaction = other.transaction) && ending.kind.isTerminal) &&
      sequenced (before ++ [statement]) rest

/-- That can be said of every statement. -/
theorem of_sequenced {before earlier later : List Statement} {statement : Statement}
    (checked : sequenced before (earlier ++ statement :: later) = true)
    (snapshot : statement.takesSnapshot = true) :
    ∀ other ∈ before ++ earlier, other.takesSnapshot = true →
      other.transaction ≠ statement.transaction →
        ∃ ending ∈ before ++ earlier, ending.transaction = other.transaction ∧
          ending.kind.isTerminal = true := by
  induction earlier generalizing before with
  | nil =>
    intro other inside taken apart
    rw [List.append_nil] at inside ⊢
    rw [List.nil_append, sequenced, snapshot, Bool.not_true, Bool.false_or, Bool.and_eq_true,
      List.all_eq_true] at checked
    have closed := checked.1 other inside
    rw [taken, Bool.not_true, Bool.false_or, decide_eq_false apart, Bool.false_or,
      List.any_eq_true] at closed
    obtain ⟨ending, there, both⟩ := closed
    rw [Bool.and_eq_true, decide_eq_true_eq] at both
    exact ⟨ending, there, both⟩
  | cons first earlier hypothesis =>
    rw [List.cons_append, sequenced, Bool.and_eq_true] at checked
    have further := hypothesis checked.2
    rwa [List.append_assoc] at further

/-- A run that sends its statements in such an order is without overlap. -/
theorem inSequence_of_sequenced {base : Database} {batch : Batch} {moment : Moment}
    (finished : Finished base batch moment) (numbered : batch.Numbered) {sent : List Statement}
    (begins : moment.sendings.map (·.statement) <+: sent) (checked : sequenced [] sent = true) :
    moment.InSequence := by
  have named : ∀ sending ∈ moment.sendings, sending.transaction ∈ batch ∧
      sending.statement.transaction = sending.transaction.id := by
    intro sending inside
    have member := finished.sound.sent sending inside
    refine ⟨member, (numbered.each _ member).transaction_eq ((finished.inOrder member).subset ?_)⟩
    exact mem_statementsOf (List.mem_map_of_mem (f := Sending.turn) inside) (Value.alike_refl _)
  intro earlier sending later all snapshot other inside taken apart
  obtain ⟨rest, cut⟩ := begins
  rw [all, List.map_append, List.map_cons, List.append_assoc, List.cons_append] at cut
  rw [← cut] at checked
  obtain ⟨mine, own⟩ := named sending (by rw [all]; simp)
  obtain ⟨theirs, carried⟩ := named other (by rw [all]; simp [inside])
  obtain ⟨statement, listed, same, terminal⟩ := of_sequenced checked snapshot other.statement
    (by simpa using ⟨other, inside, rfl⟩) taken fun same =>
      apart (numbered.eq_of_id theirs mine (carried.symm.trans (same.trans own)))
  obtain ⟨ending, there, rfl⟩ : ∃ ending ∈ earlier, ending.statement = statement := by
    simpa using listed
  obtain ⟨known, owner⟩ := named ending (by rw [all]; simp [there])
  exact ⟨ending, there, numbered.eq_of_id known theirs (owner.symm.trans (same.trans carried)),
    by rw [Sending.ends, terminal, Bool.true_or]⟩

/-- Transactions are about the tables of a database if that can be seen of their statements. -/
theorem isAbout_of_shape {batch : Batch} {base : Database} {shape : Shape}
    (seen : shapeOf batch = shape)
    (all : ∀ data ∈ shape.data, ∀ entry ∈ data, ∃ name ∈ base.tables.map (·.name),
      entry.2 = .read name ∨ entry.2 = .write name) :
    ∀ transaction ∈ batch, transaction.IsAbout base := by
  intro transaction member
  refine isAbout_of_dataOf (fun name listed => ?_) rfl (all (dataOf transaction) ?_)
  · obtain ⟨table, held, rfl⟩ := List.mem_map.1 listed
    exact List.find?_isSome.2 ⟨table, held, beq_self_eq_true _⟩
  · rw [← seen]
    exact List.mem_map_of_mem member

/-- A bench on which two transactions are opened at the same time and then run one after the other; only
one serial order may be tried. -/
def oneOrder : Bench :=
  { scheduled [] [1, 2, 1, 1, 1] with
    settings := { (scheduled [] []).settings with maxOrders := .integer 1 } }

/-- Two transactions that each read what the other one writes are run there without overlap. -/
theorem restoredAndTested_oneOrder :
    ((restoredAndTested oneOrder (generator skewed)).1.toOption.map fun made =>
        (shapeOf made.1, made.2.1.server.database.tables.map (·.name),
          sequenced [] (made.2.2.results.map (·.statement)))) =
      some (skewedShape, ["t0", "t1"], true) := by
  decide +kernel

end Sample

/-- Two transactions that each read what the other one writes raise no alarm when their work does not
overlap, even if no more than one serial order may be tried. -/
theorem checkBatch_in_sequence_skewed :
    ∃ batch test between moment after, Sample.shapeOf batch = Sample.skewedShape ∧
      (Run.run batch .interleaved none .null).Returns (Sample.oneOrder.noting batch) test between ∧
        Run.EndsAt batch (Sample.oneOrder.noting batch) test between moment ∧
          moment.InSequence ∧ (Check.checkBatch batch).Returns Sample.oneOrder .consistent after := by
  obtain ⟨⟨batch, restored, test⟩, last, returned, seen⟩ :=
    Task.returns_of_map Sample.restoredAndTested_oneOrder
  simp only [Prod.mk.injEq] at seen
  obtain ⟨shape, tables, checked⟩ := seen
  simp only [Sample.restoredAndTested, Task.returns_bind, Task.returns_set, Task.returns_get,
    Task.returns_pure, Prod.mk.injEq] at returned
  obtain ⟨_, _, made, _, _, rfl, _, _, restores, _, _, ⟨rfl, rfl⟩, _, _, rfl, _, _, tested,
    ⟨rfl, rfl, rfl⟩, rfl⟩ := returned
  obtain ⟨ids, connections, data⟩ := Sample.Shape.mk.inj shape
  have generated : batch.Generated := Sample.pair_generated made (by rw [ids]; decide)
  have suits : Sample.oneOrder.Suits batch := by
    have others : (Sample.scheduled [] [1, 2, 1, 1, 1]).Suits batch :=
      Sample.scheduled_suits (fun _ member => absurd member List.not_mem_nil) _ connections
    exact ⟨others.calm, others.idle, others.orderly, others.setup, others.sessions, others.keeps,
      others.distinct⟩
  have about : ∀ transaction ∈ batch, transaction.IsAbout restored.server.database := by
    refine Sample.isAbout_of_shape shape ?_
    rw [tables]
    decide
  obtain ⟨moment, ends⟩ := Run.exists_endsAt generated.numbered tested
  have sequence : moment.InSequence := by
    obtain ⟨_, final, _, _, _, _, _, prompt, _, again, _⟩ :=
      suits.noting.prompt_run generated rfl (Number.isSteady_whole 0) restores about
    obtain ⟨ground, _, _, _, finished, _⟩ := suits.noting.ended generated ends
    refine Sample.inSequence_of_sequenced finished generated.numbered ?_ checked
    rw [(tested.unique again).1]
    exact prompt.recorded ▸ (prompt.final moment ends.passes).map _
  obtain ⟨_, checks⟩ := checkBatch_in_sequence generated suits tested ends sequence
  obtain ⟨after, checked⟩ := checks 1 rfl
  exact ⟨batch, test, last, moment, after, shape, tested, ends, sequence, checked⟩

namespace Sample

/-- A bench on which two transactions are drawn that read from a table whose name sounds like a lock
conflict. -/
def lockTimeout : Bench :=
  { generator (drawing (reading 0 ++ adding secondOne) ++ drawing (reading 0 ++ adding secondOne)) with
    schema :=
      ⟨[⟨"lock_timeout", [{ name := "c0", dataType := .boolean }], none⟩,
        ⟨"t1", [{ name := "c0", dataType := .boolean }], none⟩]⟩ }

/-- These transactions. -/
def lockTimeoutShape : Shape where
  ids := [.integer 1, .integer 2]
  connections := [some 1, some 2]
  data :=
    [[(.select, .read "lock_timeout"), (.insert, .write "t1")],
      [(.select, .read "lock_timeout"), (.insert, .write "t1")]]

/-- The result counts as a lock conflict. -/
def isConflict (result : StatementResult) : Bool := result.isLockConflict.toOption == some true

/-- Where there is no such table, both are aborted at their first data statements. -/
theorem tested_lockTimeout :
    ((tested (scheduled [] []) lockTimeout).1.toOption.map fun made => (shapeOf made.1,
        made.2.results.all fun result => !result.statement.takesSnapshot || isConflict result,
        made.2.results.any fun result => !result.isBlocked && isConflict result)) =
      some (lockTimeoutShape, true, true) := by
  decide +kernel

end Sample

/-- The report about a missing table counts as a lock conflict if the name of the table sounds like one.
The serial run skips that statement, so that it has no error there. -/
theorem lock_conflict_error_differs :
    ∃ batch test between moment serial after, Sample.shapeOf batch = Sample.lockTimeoutShape ∧
      batch.Generated ∧ (Sample.scheduled [] []).Suits batch ∧
      (Run.run batch .interleaved none .null).Returns ((Sample.scheduled [] []).noting batch) test
        between ∧
      Run.EndsAt batch ((Sample.scheduled [] []).noting batch) test between moment ∧
      moment.InSequence ∧
      (Run.run batch .serialized (some test)
        (.array (Order.preferred batch.ids (some test)))).Returns between serial after ∧
      ∃ result ∈ test.results, result.isBlocked = false ∧ ∃ counterpart,
        serial.resultFor? result.statement = some counterpart ∧
          counterpart.error ≠ result.error := by
  obtain ⟨⟨batch, test⟩, last, returned, seen⟩ := Task.returns_of_map Sample.tested_lockTimeout
  simp only [Prod.mk.injEq] at seen
  obtain ⟨shape, aborted, one⟩ := seen
  simp only [Sample.tested, Task.returns_bind, Task.returns_set, Task.returns_pure,
    Prod.mk.injEq] at returned
  obtain ⟨_, _, made, _, _, rfl, _, _, tested, ⟨rfl, rfl⟩, rfl⟩ := returned
  obtain ⟨ids, connections, _⟩ := Sample.Shape.mk.inj shape
  have generated : batch.Generated := Sample.generated_of_pair rfl made (by rw [ids]; decide)
  have suits : (Sample.scheduled [] []).Suits batch :=
    Sample.scheduled_suits (fun _ member => absurd member List.not_mem_nil) _ connections
  obtain ⟨moment, ends⟩ := Run.exists_endsAt generated.numbered tested
  have conflict_of : ∀ result, Sample.isConflict result = true →
      result.isLockConflict = .ok true := by
    intro result conflict
    unfold Sample.isConflict at conflict
    cases judged : result.isLockConflict with
    | error cause => simp [judged, Except.toOption] at conflict
    | ok answer => simpa [judged, Except.toOption] using conflict
  have sequence : moment.InSequence := by
    obtain ⟨ground, _, _, _, finished, rfl, _⟩ := suits.noting.ended generated ends
    intro earlier sending later all _ other inside taken _
    have sent : other ∈ moment.sendings := by rw [all]; simp [inside]
    have recorded := finished.final.result_mem_view finished.sound
      (finished.sound.sent other sent) (List.mem_filter.2 ⟨sent, Value.alike_refl _⟩)
    have judged := List.all_eq_true.1 aborted other.result (List.mem_filter.1 recorded).1
    have conflict := conflict_of other.result (by
      rw [show other.result.statement.takesSnapshot = true from taken] at judged
      simpa using judged)
    refine ⟨other, inside, rfl, ?_⟩
    rw [Sending.result, Run.resultOf_isLockConflict] at conflict
    rw [Sending.ends, Except.ok.inj conflict, Bool.or_true]
  obtain ⟨_, _, serial, after, ran, results, _⟩ :=
    suits.noting.replayed_in_sequence generated ends sequence
  obtain ⟨result, held, both⟩ := List.any_eq_true.1 one
  rw [Bool.and_eq_true, Bool.not_eq_true'] at both
  have conflict := conflict_of result both.2
  refine ⟨batch, test, _, moment, serial, after, shape, generated, suits, tested, ends, sequence,
    ran, result, held, both.1, ?_⟩
  rcases results result held both.1 with ⟨calm, _⟩ | ⟨_, skipped⟩
  · rw [conflict] at calm
    cases calm
  · refine ⟨_, skipped, fun same => ?_⟩
    have failed := result.failed_of_isLockConflict conflict
    rw [StatementResult.failed, ← same] at failed
    cases failed

end SerialCheck

import Mathlib.Algebra.Order.Ring.Rat
import SerialCheck.Proofs.Interleaved.Course

/-!
# What an interleaved run records

When an interleaved run returns, each transaction's results are its statements, each once and in
order, and each executed result carries the outcome of its statement (`interleaved_records`). A
result is blocked exactly if its statement is late by the run's clock. The clock adds numbers as the
settings give them: where its sums are exact, late means that the delay exceeds the block timeout
(`Sending.isLate_iff`), and where they are rounded it may not
(`delay_exceeds_timeout_unblocked`).
-/
namespace SerialCheck

/-- The results of one transaction in the order in which they became known. -/
def Trace.resultsOf (trace : Trace) (id : Value) : List StatementResult :=
  trace.results.filter (·.statement.transaction.alike id)

variable {batch : Batch} {transaction : OpenTransaction}

/-- The result carries the outcome with which its statement was answered when it was sent. -/
structure StatementResult.Carries (result : StatementResult) (sending : Sending) : Prop where
  /-- It is the result of that statement. -/
  statement : result.statement = sending.statement
  /-- The session had an outcome. -/
  answered : sending.reply.result = .ok sending.outcome
  /-- The error is that of the outcome. -/
  error : result.error = .ofText? sending.outcome.error
  /-- So is the warning. -/
  warning : result.warning = .ofText? sending.outcome.warning
  /-- A reading statement without an error has rows, and no other one has. -/
  rows : result.rows =
    if sending.statement.kind.returnsRows = true ∧ sending.outcome.error = none then
      some (sending.outcome.rows.getD [])
    else none
  /-- The statement was blocked if it was late. -/
  blocked : result.blocked = .boolean sending.isLate

/-- The result of a statement carries its outcome. -/
theorem Sending.result_carries (sending : Sending)
    (answered : sending.reply.result = .ok sending.outcome) :
    sending.result.Carries sending where
  statement := rfl
  answered := answered
  error := rfl
  warning := rfl
  rows := by
    show Run.keptRows sending.statement sending.outcome = _
    simp [Run.keptRows, Outcome.succeeded]
  blocked := rfl

namespace Standing

variable {sendings : List Sending} {view : View}

/-- A result of a transaction carries the outcome of a statement that it sent, or belongs to a
statement that was given up. -/
theorem mem_results (standing : Standing transaction sendings view) {result : StatementResult}
    (held : result ∈ view.results) :
    (∃ sending ∈ sendings, result.Carries sending) ∨
      ∃ statement ∈ transaction.statements, result = Run.skipped statement true := by
  cases standing with
  | going stands =>
    rw [stands.results] at held
    obtain ⟨sending, sent, rfl⟩ := List.mem_map.1 held
    exact .inl ⟨sending, sent, sending.result_carries (stands.calm sending sent).answered⟩
  | waiting earlier last all stands =>
    rw [stands.results] at held
    obtain ⟨sending, sent, rfl⟩ := List.mem_map.1 held
    refine .inl ⟨sending, ?_, sending.result_carries (stands.calm sending sent).answered⟩
    rw [all]
    exact List.mem_append_left _ sent
  | aborted earlier last all stands =>
    rw [stands.results] at held
    rcases List.mem_append.1 held with recorded | given
    · obtain ⟨sending, sent, rfl⟩ := List.mem_map.1 recorded
      rw [all]
      refine .inl ⟨sending, sent, sending.result_carries ?_⟩
      rcases List.mem_append.1 sent with before | final
      · exact (stands.calm sending before).answered
      · rw [List.mem_singleton.1 final]
        exact stands.answered
    · obtain ⟨statement, up, rfl⟩ := List.mem_map.1 given
      exact .inr ⟨statement, List.mem_of_mem_drop up, rfl⟩

end Standing

namespace Sound

variable {moment : Moment}

/-- When no transaction can continue, one that has nothing parked has sent all its statements or was
aborted. -/
theorem ended (sound : Sound batch moment) (still : moment.progress.runnable batch = [])
    (member : transaction ∈ batch)
    (nothing : (moment.progress.view transaction.id).parked = []) :
    (Going transaction (moment.sendingsOf transaction.id) (moment.progress.view transaction.id) ∧
        (moment.sendingsOf transaction.id).length = transaction.size) ∨
      ∃ earlier last, moment.sendingsOf transaction.id = earlier ++ [last] ∧
        Aborted transaction earlier last (moment.progress.view transaction.id) := by
  have used : ¬ (moment.progress.view transaction.id).sent < transaction.size := by
    intro left
    have runs := Progress.mem_runnable.2 ⟨member, Progress.canContinue_iff.2 ⟨nothing, left⟩⟩
    rw [still] at runs
    cases runs
  cases sound.standing transaction member with
  | going stands =>
    rw [stands.count] at used
    exact .inl ⟨stands, Nat.le_antisymm stands.length_le (Nat.le_of_not_lt used)⟩
  | waiting earlier last all stands =>
    rw [stands.parked] at nothing
    cases nothing
  | aborted earlier last all stands => exact .inr ⟨earlier, last, all, stands⟩

/-- Its results are then its statements in order. -/
theorem statements_results (sound : Sound batch moment)
    (still : moment.progress.runnable batch = []) (member : transaction ∈ batch)
    (nothing : (moment.progress.view transaction.id).parked = []) :
    (moment.progress.view transaction.id).results.map StatementResult.statement =
      transaction.statements := by
  have recorded : ∀ sendings : List Sending,
      (sendings.map Sending.result).map StatementResult.statement =
        sendings.map Sending.statement := by
    intro sendings
    rw [List.map_map]
    rfl
  rcases sound.ended still member nothing with ⟨stands, all⟩ | ⟨earlier, last, all, stands⟩
  · rw [stands.results, recorded]
    refine stands.statements.eq_of_length ?_
    rw [List.length_map, all]
    rfl
  · have sent : (earlier ++ [last]).map Sending.statement =
        transaction.statements.take (earlier.length + 1) := by
      simpa using List.prefix_iff_eq_take.1 stands.statements
    have given : ∀ statements : List Statement,
        (statements.map (Run.skipped · true)).map StatementResult.statement = statements := by
      intro statements
      rw [List.map_map]
      exact List.map_id statements
    rw [stands.results, List.map_append, recorded, given, sent, List.take_append_drop]

end Sound

namespace Moment.Final

variable {moment : Moment}

/-- At a final moment nothing is parked for a transaction. -/
theorem view_parked (final : moment.Final batch) (id : Value) :
    (moment.progress.view id).parked = [] := by
  simp [Progress.view, final.clear]

/-- At a final moment a transaction has sent all its statements or was aborted. -/
theorem ended (final : moment.Final batch) (sound : Sound batch moment)
    (member : transaction ∈ batch) :
    (Going transaction (moment.sendingsOf transaction.id) (moment.progress.view transaction.id) ∧
        (moment.sendingsOf transaction.id).length = transaction.size) ∨
      ∃ earlier last, moment.sendingsOf transaction.id = earlier ++ [last] ∧
        Aborted transaction earlier last (moment.progress.view transaction.id) :=
  sound.ended final.still member (final.view_parked transaction.id)

/-- At a final moment the result of every statement that a transaction sent is recorded. -/
theorem result_mem_view (final : moment.Final batch) (sound : Sound batch moment)
    (member : transaction ∈ batch) {sending : Sending}
    (sent : sending ∈ moment.sendingsOf transaction.id) :
    sending.result ∈ (moment.progress.view transaction.id).results := by
  rcases final.ended sound member with ⟨stands, _⟩ | ⟨earlier, last, all, stands⟩
  · rw [stands.results]
    exact List.mem_map_of_mem sent
  · rw [stands.results, ← all]
    exact List.mem_append_left _ (List.mem_map_of_mem sent)

/-- At a final moment the results of a transaction are its statements in order. -/
theorem statements_results (final : moment.Final batch) (sound : Sound batch moment)
    (member : transaction ∈ batch) :
    (moment.progress.view transaction.id).results.map StatementResult.statement =
      transaction.statements :=
  sound.statements_results final.still member (final.view_parked transaction.id)

end Moment.Final

/-- The clock reads and adds the times of a statement exactly: the time at which it is sent, its
delay and the block timeout are the given ones. -/
structure Sending.Timed (sending : Sending) (now delay timeout : Rat) : Prop where
  /-- The time of sending. -/
  sent : sending.bench.now.quantity? = some (.finite now)
  /-- The time at which it is finished. -/
  finish : ∃ number, Value.addNumbers sending.bench.now sending.reply.delay = .ok number ∧
    number.quantity? = some (.finite (now + delay))
  /-- The time at which the block timeout is over. -/
  deadline : ∃ number, sending.bench.settings.blockTimeout.addTo sending.bench.now = .ok number ∧
    number.quantity? = some (.finite (now + timeout))

namespace Sending

variable {sending : Sending}

/-- By a clock that adds exactly, late means that the delay exceeds the timeout. -/
theorem isLate_iff {now delay timeout : Rat} (timed : sending.Timed now delay timeout)
    (positive : 0 ≤ timeout) : sending.isLate = true ↔ timeout < delay := by
  obtain ⟨finish, summed, finished⟩ := timed.finish
  obtain ⟨limit, added, limited⟩ := timed.deadline
  have early : finish.le sending.bench.now = decide (delay ≤ 0) := by
    simp [Number.le, finished, timed.sent, Quantity.le]
  have passed : limit.lt finish = decide (timeout < delay) := by
    simp [Number.lt, finished, limited, Quantity.lt]
  have judged : sending.isLate = (!decide (delay ≤ 0) && decide (timeout < delay)) := by
    rw [isLate, summed]
    simp only [Except.toOption, Option.any_some]
    unfold Run.outlasts
    split
    next nothing =>
      rw [nothing] at added
      cases added
    next =>
      rw [early, added]
      simp [Except.toOption, passed]
  rw [judged]
  simp only [Bool.and_eq_true, Bool.not_eq_true', decide_eq_false_iff_not, decide_eq_true_eq]
  constructor
  · exact And.right
  · intro exceeds
    exact ⟨fun zero => absurd (lt_of_le_of_lt positive exceeds) (not_lt.2 zero), exceeds⟩

/-- Whole numbers are added exactly. -/
theorem timed_of_whole {now delay timeout : Int} (clock : sending.bench.now = .whole now)
    (takes : sending.reply.delay = .whole delay)
    (limit : sending.bench.settings.blockTimeout = .integer timeout) :
    sending.Timed now delay timeout where
  sent := by rw [clock]; rfl
  finish := ⟨.whole (now + delay), by rw [clock, takes]; rfl, by simp [Number.quantity?]⟩
  deadline := ⟨.whole (now + timeout), by rw [clock, limit]; rfl, by simp [Number.quantity?]⟩

end Sending

/-- When the interleaved run of a numbered batch returns, each transaction's results are its
statements, each once and in order, and there are no other results. Every executed result carries
the outcome of its statement, which is one that the run sent, and is blocked if that was late;
where the clock adds exactly, that is if its delay exceeded the block timeout. -/
theorem interleaved_records (numbered : batch.Numbered) {reference : Option Trace} {order : Value}
    {bench after : Bench} {trace : Trace}
    (returned : (Run.run batch .interleaved reference order).Returns bench trace after) :
    (∀ transaction ∈ batch,
        (trace.resultsOf transaction.id).map StatementResult.statement = transaction.statements) ∧
      (∀ result ∈ trace.results, ∃ transaction ∈ batch, result.statement ∈ transaction.statements) ∧
      ∃ last : Moment, Run.Passes batch bench last ∧ last.Final batch ∧
        last.progress.trace.results = trace.results ∧
        ∀ result ∈ trace.results, result.executed = .boolean true →
          ∃ sending ∈ last.sendings, result.Carries sending ∧
            ∀ now delay timeout, sending.Timed now delay timeout → 0 ≤ timeout →
              (result.blocked = .boolean true ↔ timeout < delay) := by
  obtain ⟨last, passes, final, contents, _, rfl⟩ := Run.run_interleaved_returns numbered returned
  have sound : Sound batch last := Sound.of_reached numbered passes.choose_spec.2
  refine ⟨fun transaction member => final.statements_results sound member, sound.known.results,
    last, passes, final, rfl, ?_⟩
  intro result held executed
  obtain ⟨transaction, member, own⟩ := sound.known.results result held
  have mine : result ∈ (last.progress.view transaction.id).results := by
    refine List.mem_filter.2 ⟨held, ?_⟩
    rw [(numbered.each transaction member).transaction_eq own]
    exact Value.alike_refl _
  rcases (sound.standing transaction member).mem_results mine with
    ⟨sending, sent, carries⟩ | ⟨statement, _, rfl⟩
  · refine ⟨sending, (List.mem_filter.1 sent).1, carries, ?_⟩
    intro now delay timeout timed positive
    rw [carries.blocked, ← Sending.isLate_iff timed positive]
    simp
  · cases executed

namespace Sample

/-- A statement without errors that are expected. -/
def statement (id place : Int) (kind : StatementKind) (text : String) : Statement where
  transaction := .integer id
  index := .integer place
  kind := kind
  text := .text text

/-- A transaction that adds a row to a table and then reads another one. -/
def insertAndRead (number : Nat) (written read : String) : OpenTransaction where
  id := .integer number
  opening := statement number 0 .begin "BEGIN"
  data :=
    [statement number 1 .insert ("INSERT INTO " ++ written ++ " VALUES (1)"),
      statement number 2 .select ("SELECT * FROM " ++ read)]
  closing := statement number 3 .commit "COMMIT"
  opens := rfl
  dataOnly := by simp [statement, StatementKind.isControl]
  closes := rfl
  session := ⟨some number, s!"session-{number}"⟩

/-- The transaction is numbered. -/
theorem insertAndRead_numbered (number : Nat) (written read : String) :
    (insertAndRead number written read).Numbered := .of_list ⟨number, rfl⟩ rfl

/-- A bench with two tables, two connections and the given rules. -/
def bench (rules : List Rule) : Bench where
  settings := {}
  randomness := ⟨.integer 0, ⟨[], ⟨#[], 0⟩⟩, [], [], []⟩
  schedule := some []
  server := { connections := [{}, {}], rules }
  setupLog := [⟨.text "CREATE TABLE t0", .none, true⟩, ⟨.text "CREATE TABLE t1", .none, true⟩]

/-- One transaction. -/
def single : Batch := [insertAndRead 1 "t0" "t1"]

/-- The single transaction is a numbered batch. -/
theorem single_numbered : single.Numbered where
  each := by
    intro transaction member
    rw [List.mem_singleton.1 member]
    exact insertAndRead_numbered 1 "t0" "t1"
  distinct := List.nodup_singleton _

/-- It is plain. -/
theorem single_plain : single.Plain := by
  intro transaction member statement own
  rw [List.mem_singleton.1 member] at own
  simp only [Transaction.statements, insertAndRead, List.cons_append, List.nil_append,
    List.mem_cons, List.not_mem_nil, or_false] at own
  rcases own with rfl | rfl | rfl | rfl <;> exact ⟨⟨_, rfl⟩, rfl⟩

/-- Binary numbers next to one half: the least one above it. -/
def aboveHalf : Binary64 := .finite false 0x10000000000001 (-53)

/-- Opening a transaction takes eight seconds, and adding a row a little more than half a second. -/
def slow : List Rule :=
  [{ start := some (.text "BEGIN"), delay := .integer 8 },
    { start := some (.text "INSERT"), delay := .real aboveHalf }]

/-- The run of the single transaction with slow statements: only the opening is blocked. -/
theorem slow_results :
    ((Run.run single .interleaved none .null (bench slow)).1.toOption.map fun trace =>
        trace.results.map fun result => (result.statement.index, result.executed, result.blocked)) =
      some
        [(.integer 0, .boolean true, .boolean true), (.integer 1, .boolean true, .boolean false),
          (.integer 2, .boolean true, .boolean false),
          (.integer 3, .boolean true, .boolean false)] := by decide +kernel

end Sample

/-- A run with slow statements returns a trace, and its results are the statements of the batch. -/
theorem interleaved_records_slow :
    ∃ trace after, (Run.run Sample.single .interleaved none .null).Returns (Sample.bench Sample.slow)
        trace after ∧
      ∀ transaction ∈ Sample.single,
        (trace.resultsOf transaction.id).map StatementResult.statement = transaction.statements := by
  obtain ⟨trace, after, returned, _⟩ := Task.returns_of_map Sample.slow_results
  exact ⟨trace, after, returned, (interleaved_records Sample.single_numbered returned).1⟩

/-- The rule that applies to the insertion delays it by more than the block timeout, and yet its
result is not blocked: after the eight seconds that the opening takes, the clock reaches the same
number with either of them. -/
theorem delay_exceeds_timeout_unblocked :
    (Rule.choose 1 (.text "INSERT INTO t0 VALUES (1)") Sample.slow).1.toOption.join.map Rule.delay =
        some (.real Sample.aboveHalf) ∧
      (Sample.bench Sample.slow).settings.blockTimeout = .real .half ∧
      (Number.binary .half).lt (.binary Sample.aboveHalf) = true ∧
      ∃ trace after, (Run.run Sample.single .interleaved none .null).Returns
          (Sample.bench Sample.slow) trace after ∧
        (trace.results.map fun result => (result.statement.index, result.executed, result.blocked)) =
          [(.integer 0, .boolean true, .boolean true), (.integer 1, .boolean true, .boolean false),
            (.integer 2, .boolean true, .boolean false),
            (.integer 3, .boolean true, .boolean false)] := by
  refine ⟨?_, rfl, ?_, Task.returns_of_map Sample.slow_results⟩
  · decide +kernel
  · decide +kernel

end SerialCheck

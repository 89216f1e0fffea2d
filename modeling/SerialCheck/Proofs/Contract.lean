import SerialCheck.Proofs.Interleaved.Records
import SerialCheck.Proofs.Serial.Replay

/-!
# The contract between runs and their comparison

A serial run of a batch, with an interleaved one for its reference, executes every statement whose
result the comparison looks at, those excepted at which the reference run aborted a transaction; and
these are lock conflicts, which the comparison lets pass. So it always comes to a verdict, and
names no statement that the serial run left out (`compare_of_runs`).
-/
namespace SerialCheck

namespace Comparison

variable {test serial : StatementResult} {run : Trace} {finding : Finding}

/-- A finding about a statement names that of the test run. -/
theorem statement_of_statementFinding
    (found : statementFinding? test serial = .ok (some finding)) :
    finding.statement = some test.statement := by
  unfold statementFinding? at found
  split at found
  · cases conflict : test.isLockConflict with
    | error cause =>
      rw [conflict] at found
      cases found
    | ok isConflict =>
      rw [conflict] at found
      cases isConflict <;> cases found
      rfl
  · split at found
    · cases found
      rfl
    · unfold effectFinding? at found
      split at found
      · cases found
        rfl
      · split at found
        · cases difference : Rows.difference? test.rows serial.rows with
          | none =>
            rw [difference] at found
            cases found
          | some difference' =>
            rw [difference] at found
            cases found
            rfl
        · cases found

/-- Results with texts for errors can be compared. -/
theorem statementFinding_returns (readable : ∃ isConflict, test.isLockConflict = .ok isConflict) :
    ∃ outcome, statementFinding? test serial = .ok outcome := by
  obtain ⟨isConflict, judged⟩ := readable
  unfold statementFinding?
  rw [judged]
  split
  · exact ⟨_, rfl⟩
  · split <;> exact ⟨_, rfl⟩

/-- The search for the first difference ends if every result that is not blocked has a
counterpart that it can be compared with. -/
theorem firstFinding_returns {results : List StatementResult}
    (fit : ∀ test ∈ results, test.isBlocked = false →
      ∃ serial outcome, run.resultFor? test.statement = some serial ∧
        statementFinding? test serial = .ok outcome) :
    ∃ outcome, firstFinding? run results = .ok outcome := by
  induction results with
  | nil => exact ⟨none, rfl⟩
  | cons test rest hypothesis =>
    have others := hypothesis fun other member => fit other (List.mem_cons_of_mem _ member)
    unfold firstFinding?
    split
    · exact others
    next open_ =>
      obtain ⟨serial, outcome, met, compared⟩ :=
        fit test List.mem_cons_self (Bool.eq_false_iff.2 open_)
      rw [met]
      simp only [compared]
      cases outcome with
      | none => exact others
      | some finding => exact ⟨_, rfl⟩

/-- The first difference is one between a result that is not blocked and its counterpart. -/
theorem of_firstFinding {results : List StatementResult}
    (found : firstFinding? run results = .ok (some finding)) :
    ∃ test ∈ results, test.isBlocked = false ∧
      ∃ serial, run.resultFor? test.statement = some serial ∧
        statementFinding? test serial = .ok (some finding) := by
  induction results with
  | nil => cases found
  | cons test rest hypothesis =>
    have later : firstFinding? run rest = .ok (some finding) →
        ∃ other ∈ test :: rest, other.isBlocked = false ∧
          ∃ serial, run.resultFor? other.statement = some serial ∧
            statementFinding? other serial = .ok (some finding) := by
      intro met
      obtain ⟨other, member, differs⟩ := hypothesis met
      exact ⟨other, List.mem_cons_of_mem _ member, differs⟩
    unfold firstFinding? at found
    split at found
    · exact later found
    next open_ =>
      split at found
      · cases found
      next serial met =>
        split at found
        · cases found
        next other compared =>
          cases found
          exact ⟨test, List.mem_cons_self, Bool.eq_false_iff.2 open_, serial, met, compared⟩
        · exact later found

/-- What differs between the tables is at no statement. -/
theorem statement_of_finalVerdict {test serial : Trace}
    (found : finalVerdict test serial = .inconsistent finding) : finding.statement = none := by
  unfold finalVerdict at found
  split at found
  next other met =>
    cases found
    obtain ⟨name, _, differs⟩ := List.exists_of_findSome?_eq_some met
    unfold contentsFinding? at differs
    split at differs
    · obtain ⟨difference, _, rfl⟩ := Option.map_eq_some_iff.1 differs
      rfl
    · cases differs
      rfl
  · cases found

end Comparison

/-- The result of an outcome has a text for its error. -/
theorem Run.resultOf_isLockConflict (statement : Statement) (outcome : Outcome) (blocked : Bool) :
    (Run.resultOf statement outcome blocked).isLockConflict = .ok outcome.conflicts := by
  unfold StatementResult.isLockConflict Run.resultOf Outcome.conflicts Value.ofText?
  cases outcome.error <;> rfl

/-- A lock conflict is a failure. -/
theorem StatementResult.failed_of_isLockConflict {result : StatementResult}
    (conflict : result.isLockConflict = .ok true) : result.failed = true := by
  rw [failed, bne_iff_ne]
  intro none
  simp [isLockConflict, none] at conflict

/-- A lock conflict that the serial run has skipped is no difference. -/
theorem Comparison.conflict_passes {result : StatementResult}
    (conflict : result.isLockConflict = .ok true) (statement : Statement) :
    statementFinding? result (Run.skipped statement false) = .ok none := by
  have whole : (Run.skipped statement false).failed = false := rfl
  unfold statementFinding?
  rw [if_pos (by rw [result.failed_of_isLockConflict conflict, whole]; decide), conflict]
  rfl

/-- The statement is ahead of the place at which its transaction was aborted, if it was. -/
def Statement.IsAhead (statement : Statement) : Option Value → Prop
  | none => True
  | some place => ∃ index cut : Int, statement.index = .integer index ∧ place = .integer cut ∧
      index < cut

/-- A statement ahead of an abort is not cut. -/
theorem Statement.IsAhead.isCut {statement : Statement} {abort : Option Value}
    (ahead : statement.IsAhead abort) : Run.isCut (abort.getD .null) statement = .ok false := by
  cases abort with
  | none => rfl
  | some place =>
    obtain ⟨index, cut, placed, rfl, below⟩ := ahead
    show statement.index.isAtLeast (.integer cut) = .ok false
    rw [placed, Value.isAtLeast_integer, decide_eq_false (by omega)]

section

variable {batch : Batch} {transaction : OpenTransaction} {moment : Moment}

/-- A result that is not blocked is no lock conflict and of a statement ahead of the abort of its
transaction, or it is the lock conflict at which the transaction was aborted. -/
theorem Moment.Final.unblocked (final : moment.Final batch) (sound : Sound batch moment)
    (numbered : batch.Numbered) (member : transaction ∈ batch) {result : StatementResult}
    (held : result ∈ (moment.progress.view transaction.id).results)
    (unblocked : result.isBlocked = false) :
    ∃ sending ∈ moment.sendingsOf transaction.id,
      result = sending.result ∧ sending.isLate = false ∧
      ((sending.outcome.conflicts = false ∧
          sending.statement.IsAhead (moment.progress.view transaction.id).abort) ∨
        (sending.outcome.conflicts = true ∧
          (moment.progress.view transaction.id).abort = some sending.statement.index)) := by
  have early : ∀ sending : Sending, sending.result.isBlocked = false → sending.isLate = false :=
    fun _ => id
  rcases final.ended sound member with ⟨stands, _⟩ | ⟨earlier, last, all, stands⟩
  · rw [stands.results] at held
    obtain ⟨sending, sent, rfl⟩ := List.mem_map.1 held
    refine ⟨sending, sent, rfl, early sending unblocked, .inl ⟨(stands.calm sending sent).calm, ?_⟩⟩
    rw [stands.abort]
    trivial
  · rw [stands.results] at held
    rcases List.mem_append.1 held with recorded | given
    · obtain ⟨sending, sent, rfl⟩ := List.mem_map.1 recorded
      refine ⟨sending, all ▸ sent, rfl, early sending unblocked, ?_⟩
      rw [stands.abort]
      obtain ⟨place, found⟩ := List.mem_iff_getElem?.1 sent
      have within : place < (earlier ++ [last]).length := (List.getElem?_eq_some_iff.1 found).1
      have index : sending.statement.index = .integer place := by
        refine ((numbered.each transaction member).statements place sending.statement ?_).2
        obtain ⟨rest, all⟩ := stands.statements
        rw [← all, List.getElem?_append_left (by simpa using within), List.getElem?_map, found]
        rfl
      by_cases before : place < earlier.length
      · have inside : sending ∈ earlier := by
          rw [List.getElem?_append_left before] at found
          exact List.mem_of_getElem? found
        exact .inl ⟨(stands.calm sending inside).calm, place, earlier.length, index, rfl, by omega⟩
      · have final : place = earlier.length := by
          simp only [List.length_append, List.length_cons, List.length_nil] at within
          omega
        have same : sending = last := by simpa [final] using found.symm
        refine .inr ⟨same ▸ stands.conflict, ?_⟩
        rw [index, final]
    · obtain ⟨statement, _, rfl⟩ := List.mem_map.1 given
      cases unblocked

/-- The replay of a statement whose result is not blocked: the result is no lock conflict and the
statement is ahead of the abort, or the result is the lock conflict at which its transaction was
aborted, and the statement is skipped. -/
theorem Moment.Final.ahead_or_skipped (final : moment.Final batch) (sound : Sound batch moment)
    (numbered : batch.Numbered) (member : transaction ∈ batch) {result other : StatementResult}
    (held : result ∈ (moment.progress.view transaction.id).results)
    (own : result.statement ∈ transaction.statements) (unblocked : result.isBlocked = false)
    (replayed : Replayed transaction (Run.cutOf moment.progress.trace.abortedAt transaction.id)
      result.statement other) :
    (result.isLockConflict = .ok false ∧
        result.statement.IsAhead (moment.progress.view transaction.id).abort) ∨
      (result.isLockConflict = .ok true ∧ other = Run.skipped result.statement false) := by
  obtain ⟨sending, _, rfl, _, ⟨calm, ahead⟩ | ⟨conflict, here⟩⟩ :=
    final.unblocked sound numbered member held unblocked
  · exact .inl ⟨by rw [Sending.result, Run.resultOf_isLockConflict, calm], ahead⟩
  · obtain ⟨index, placed⟩ := (numbered.each transaction member).index_isWhole own
    have index_eq : sending.statement.index = .integer index := placed
    have cut : Run.cutOf moment.progress.trace.abortedAt transaction.id = .integer index := by
      have found : Value.lookup transaction.id moment.progress.trace.abortedAt =
          some sending.statement.index := here
      rw [Run.cutOf, found, index_eq]
      rfl
    have behind : Run.isCut (.integer index) sending.statement = .ok true := by
      show sending.statement.index.isAtLeast (.integer index) = .ok true
      rw [index_eq, Value.isAtLeast_integer, decide_eq_true (Int.le_refl index)]
    refine .inr ⟨by rw [Sending.result, Run.resultOf_isLockConflict, conflict], ?_⟩
    rw [cut] at replayed
    generalize given : sending.result.statement = statement at replayed
    have same : sending.statement = statement := given
    rw [same] at behind
    cases replayed with
    | skipped _ _ => rfl
    | executed another _ ahead _ =>
      rw [behind] at ahead
      cases ahead

/-- So the comparison lets the result pass, unless the statement is ahead of the abort. -/
theorem Moment.Final.ahead_or_passes (final : moment.Final batch) (sound : Sound batch moment)
    (numbered : batch.Numbered) (member : transaction ∈ batch) {result other : StatementResult}
    (held : result ∈ (moment.progress.view transaction.id).results)
    (own : result.statement ∈ transaction.statements) (unblocked : result.isBlocked = false)
    (replayed : Replayed transaction (Run.cutOf moment.progress.trace.abortedAt transaction.id)
      result.statement other) :
    result.statement.IsAhead (moment.progress.view transaction.id).abort ∨
      Comparison.statementFinding? result other = .ok none := by
  refine (final.ahead_or_skipped sound numbered member held own unblocked replayed).imp And.right ?_
  rintro ⟨conflict, rfl⟩
  exact Comparison.conflict_passes conflict _

/-- Every result is one of a transaction of the batch. -/
theorem Sound.owner (sound : Sound batch moment) (numbered : batch.Numbered)
    {result : StatementResult} (held : result ∈ moment.progress.trace.results) :
    ∃ transaction ∈ batch, result ∈ (moment.progress.view transaction.id).results ∧
      result.statement ∈ transaction.statements := by
  obtain ⟨transaction, member, own⟩ := sound.known.results result held
  refine ⟨transaction, member, List.mem_filter.2 ⟨held, ?_⟩, own⟩
  rw [(numbered.each transaction member).transaction_eq own]
  exact Value.alike_refl _

/-- The comparison with a run that has a result for every statement comes to an end. -/
theorem Moment.Final.judged (final : moment.Final batch) (sound : Sound batch moment)
    (numbered : batch.Numbered) {serial : Trace}
    (replayed : ∀ transaction ∈ batch, ∀ statement ∈ transaction.statements,
      ∃ counterpart, serial.resultFor? statement = some counterpart) :
    ∃ outcome, Comparison.firstFinding? serial moment.progress.trace.results = .ok outcome := by
  refine Comparison.firstFinding_returns fun result held unblocked => ?_
  obtain ⟨transaction, member, mine, own⟩ := sound.owner numbered held
  obtain ⟨counterpart, found⟩ := replayed transaction member result.statement own
  obtain ⟨sending, _, rfl, _⟩ := final.unblocked sound numbered member mine unblocked
  have compared : ∃ outcome,
      Comparison.statementFinding? sending.result counterpart = .ok outcome :=
    Comparison.statementFinding_returns ⟨_, Run.resultOf_isLockConflict _ _ _⟩
  exact ⟨counterpart, compared.choose, found, compared.choose_spec⟩

end

/-- Of an interleaved run of a numbered batch and a serial one with that reference, in any order of
all transactions: the comparison ends with a verdict, each result that is not blocked and ahead of
the abort of its transaction has an executed counterpart, and a statement that the verdict names
is ahead of the abort of its transaction. -/
theorem compare_of_runs {batch : Batch} (numbered : batch.Numbered) {reference : Option Trace}
    {given : Value} {order : List Value} (permuted : order.Perm batch.ids)
    {bench after later last : Bench} {test serial : Trace}
    (tested : (Run.run batch .interleaved reference given).Returns bench test after)
    (replayed : (Run.run batch .serialized (some test) (.array order)).Returns later serial last) :
    ∃ verdict, Comparison.compare test serial = .ok verdict ∧
      (∀ transaction ∈ batch, ∀ result ∈ test.resultsOf transaction.id,
        result.isBlocked = false → result.statement.IsAhead (test.abortOf? transaction.id) →
          ∃ counterpart, serial.resultFor? result.statement = some counterpart ∧
            counterpart.executed = .boolean true) ∧
      ∀ finding statement, verdict = .inconsistent finding → finding.statement = some statement →
        ∃ transaction ∈ batch, statement ∈ transaction.statements ∧
          statement.IsAhead (test.abortOf? transaction.id) := by
  obtain ⟨moment, passes, final, contents, _, rfl⟩ := Run.run_interleaved_returns numbered tested
  have sound : Sound batch moment := Sound.of_reached numbered passes.choose_spec.2
  -- every result of the test run with its transaction and its counterpart
  have paired : ∀ result ∈ moment.progress.trace.results, ∃ transaction ∈ batch,
      result ∈ (moment.progress.view transaction.id).results ∧
        result.statement ∈ transaction.statements ∧
        ∃ counterpart, serial.resultFor? result.statement = some counterpart ∧
          Replayed transaction (Run.cutOf moment.progress.trace.abortedAt transaction.id)
            result.statement counterpart := by
    intro result held
    obtain ⟨transaction, member, mine, own⟩ := sound.owner numbered held
    exact ⟨transaction, member, mine, own,
      Run.serial_resultFor numbered permuted replayed member own⟩
  obtain ⟨outcome, judged⟩ := final.judged sound numbered fun transaction member statement own =>
    (Run.serial_resultFor numbered permuted replayed member own).imp fun _ => And.left
  refine ⟨_, congrArg (Except.map _) judged, ?_, ?_⟩
  · intro transaction member result held unblocked ahead
    have inside : result ∈ moment.progress.trace.results := (List.mem_filter.1 held).1
    obtain ⟨owner, known, _, own, counterpart, found, replay⟩ := paired result inside
    have same : owner = transaction := by
      refine (numbered.alike_iff known member).1 ?_
      rw [← (numbered.each owner known).transaction_eq own]
      simpa using (List.mem_filter.1 held).2
    subst same
    exact ⟨counterpart, found, replay.executed_of_ahead ahead.isCut⟩
  · intro finding statement inconsistent named
    cases outcome with
    | none =>
      rw [Comparison.statement_of_finalVerdict inconsistent] at named
      cases named
    | some found =>
      cases inconsistent
      obtain ⟨result, held, unblocked, other, met, differs⟩ := Comparison.of_firstFinding judged
      obtain ⟨transaction, member, mine, own, counterpart, found, replay⟩ := paired result held
      have same : counterpart = other := Option.some.inj (found.symm.trans met)
      have here : statement = result.statement := by
        rw [Comparison.statement_of_statementFinding differs] at named
        exact (Option.some.inj named).symm
      rw [here]
      refine ⟨transaction, member, own, ?_⟩
      rcases final.ahead_or_passes sound numbered member mine own unblocked replay with
        ahead | passes
      · exact ahead
      · rw [same, differs] at passes
        cases passes

namespace Sample

/-- Every insertion ends in a deadlock. -/
def deadlocks : List Rule :=
  [{ start := some (.text "INSERT"),
     answer := .failure (.ok .statement) "deadlock detected" false }]

/-- An interleaved run and a serial one with that reference. -/
def bothRuns : Task (Trace × Trace) := do
  let test ← Run.run single .interleaved none .null
  let serial ← Run.run single .serialized (some test) (.array [.integer 1])
  return (test, serial)

/-- The insertion aborts the transaction in the interleaved run. -/
theorem bothRuns_deadlocks :
    (bothRuns (bench deadlocks)).1.toOption.map (fun traces => traces.1.abortedAt) =
      some [(.integer 1, .integer 1)] := by decide +kernel

end Sample

/-- The runs of a transaction that a deadlock aborts are compared. -/
theorem compare_of_runs_deadlock :
    ∃ test serial middle last,
      (Run.run Sample.single .interleaved none .null).Returns (Sample.bench Sample.deadlocks) test
          middle ∧
        (Run.run Sample.single .serialized (some test) (.array [.integer 1])).Returns middle serial
          last ∧
        test.abortedAt = [(.integer 1, .integer 1)] ∧
        ∃ verdict, Comparison.compare test serial = .ok verdict := by
  obtain ⟨⟨test, serial⟩, last, returned, aborted⟩ :=
    Task.returns_of_map Sample.bothRuns_deadlocks
  simp only [Sample.bothRuns, Task.returns_bind, Task.returns_pure, Prod.mk.injEq] at returned
  obtain ⟨_, middle, tested, _, _, replayed, ⟨rfl, rfl⟩, rfl⟩ := returned
  obtain ⟨verdict, compared, _⟩ :=
    compare_of_runs Sample.single_numbered (List.Perm.refl [Value.integer 1]) tested replayed
  exact ⟨_, _, _, _, tested, replayed, aborted, verdict, compared⟩

end SerialCheck

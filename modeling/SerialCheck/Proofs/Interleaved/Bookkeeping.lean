import SerialCheck.Proofs.Contract
import SerialCheck.Proofs.Engine.Stage

/-!
# The bookkeeping of an interleaved run

Besides its results a trace keeps in which order the transactions ended and took their snapshots, and
which were aborted where. When an interleaved run returns, each transaction has ended once, it is
listed as aborted exactly if one of its statements met a lock conflict, and it has taken its snapshot
exactly if its first data statement was sent (`interleaved_bookkeeping`).
-/
namespace SerialCheck

namespace StatementResult

/-- The statement was sent, and the engine aborted its transaction because of a lock conflict. -/
structure IsConflict (result : StatementResult) : Prop where
  /-- It was sent. -/
  executed : result.executed = .boolean true
  /-- Its error is a lock conflict. -/
  conflict : result.isLockConflict = .ok true

/-- The statement was given up: it was not sent, and nothing came back. -/
structure IsGivenUp (result : StatementResult) : Prop where
  /-- It counts as blocked. -/
  blocked : result.blocked = .boolean true
  /-- It was not sent. -/
  executed : result.executed = .boolean false
  /-- There is no error. -/
  error : result.error = .null
  /-- There is no warning. -/
  warning : result.warning = .null
  /-- There are no rows. -/
  rows : result.rows = none

/-- What was given up is no lock conflict. -/
theorem IsGivenUp.not_isConflict {result : StatementResult} (given : result.IsGivenUp) :
    ¬ result.IsConflict := by
  intro conflict
  have both := given.executed.symm.trans conflict.executed
  cases both

/-- The result is the first data statement of its transaction, and that was sent. -/
structure IsFirstData (result : StatementResult) : Prop where
  /-- It follows the opening statement. -/
  index : result.statement.index = .integer 1
  /-- It is a data statement. -/
  data : result.statement.kind.isControl = false
  /-- It was sent. -/
  executed : result.executed = .boolean true

end StatementResult

theorem Run.skipped_isGivenUp (statement : Statement) : (Run.skipped statement true).IsGivenUp :=
  ⟨rfl, rfl, rfl, rfl, rfl⟩

/-- The result of a statement that was sent is a lock conflict if its outcome is one. -/
theorem Sending.result_isConflict (sending : Sending) :
    sending.result.IsConflict ↔ sending.outcome.conflicts = true := by
  have classified : sending.result.isLockConflict = .ok sending.outcome.conflicts :=
    Run.resultOf_isLockConflict _ _ _
  constructor
  · intro conflict
    exact Except.ok.inj (classified.symm.trans conflict.conflict)
  · intro conflict
    exact ⟨rfl, by rw [classified, conflict]⟩

/-- The trace keeps of a transaction how it ended and whether it took its snapshot. -/
structure Trace.Keeps (trace : Trace) (transaction : Transaction) : Prop where
  /-- Every statement has a result. -/
  statements :
    (trace.resultsOf transaction.id).map StatementResult.statement = transaction.statements
  /-- It was aborted exactly if one of its statements met a lock conflict. -/
  aborted : (trace.abortOf? transaction.id).isSome = true ↔
    ∃ result ∈ trace.resultsOf transaction.id, result.IsConflict
  /-- That statement stands at the place of the abort; those before it were sent and met none, and
  those behind it were given up. -/
  place : ∀ place, trace.abortOf? transaction.id = some place → ∃ before conflict behind,
    trace.resultsOf transaction.id = before ++ conflict :: behind ∧ conflict.IsConflict ∧
      conflict.statement.index = place ∧
        (∀ result ∈ before, result.executed = .boolean true ∧ ¬ result.IsConflict) ∧
          ∀ result ∈ behind, result.IsGivenUp
  /-- Without an abort all statements were sent. -/
  unaborted : trace.abortOf? transaction.id = none →
    ∀ result ∈ trace.resultsOf transaction.id, result.executed = .boolean true
  /-- It took its snapshot exactly if its first data statement was sent. -/
  snapshot : transaction.id ∈ trace.snapshotOrder ↔
    ∃ result ∈ trace.resultsOf transaction.id, result.IsFirstData

/-- Entries of which each is alike to no other one are different. -/
theorem nodup_of_filter_alike {entries : List Value}
    (single : ∀ id ∈ entries, (entries.filter (·.alike id)).length ≤ 1) : entries.Nodup := by
  rw [List.nodup_iff_sublist]
  intro id twice
  have few := single id (twice.subset List.mem_cons_self)
  have both := (twice.filter (·.alike id)).length_le
  rw [List.filter_eq_self.2 (by simp [Value.alike_refl])] at both
  exact absurd (both.trans few) (Nat.not_succ_le_self 1)

/-- A statement that takes a snapshot is a data statement and follows the opening one. -/
theorem Transaction.Numbered.takesSnapshot_iff {transaction : Transaction}
    (numbered : transaction.Numbered) {statement : Statement}
    (own : statement ∈ transaction.statements) :
    statement.takesSnapshot = true ↔
      statement.index = .integer 1 ∧ statement.kind.isControl = false := by
  obtain ⟨place, found⟩ := List.mem_iff_getElem?.1 own
  have index := (numbered.statements place statement found).2
  simp only [Statement.takesSnapshot, Bool.and_eq_true, Bool.not_eq_true', index,
    Value.alike_integer, decide_eq_true_eq, Value.integer.injEq]
  refine and_congr_right fun first => ?_
  rcases transaction.at_place found with ⟨zero, _⟩ | ⟨_, _, data⟩ | ⟨_, rfl⟩
  · omega
  · have kind := transaction.dataOnly statement data
    simp only [kind, iff_true]
    cases word : statement.kind <;> simp_all [StatementKind.isControl, StatementKind.isTerminal]
  · have ends := transaction.closes
    cases word : transaction.closing.kind <;>
      simp_all [StatementKind.isControl, StatementKind.isTerminal]

section
variable {batch : Batch} {transaction : OpenTransaction} {sendings : List Sending} {view : View}

/-- A transaction takes its snapshot at most once. -/
theorem Begun.snapshots_length (begun : Begun transaction sendings view)
    (numbered : transaction.Numbered) : view.snapshots.length ≤ 1 := by
  have taken : ((sendings.map Sending.statement).filter Statement.takesSnapshot).length =
      view.snapshots.length := by
    rw [begun.snapshots, List.length_map, List.filter_map, List.length_map]
    rfl
  rw [← taken]
  generalize all : sendings.map Sending.statement = statements
  have own : statements <+: transaction.statements := all ▸ begun.statements
  -- what takes a snapshot stands at place one, and only one statement does
  have places : (statements.map Statement.index).Nodup := by
    have numbers : transaction.statements.map Statement.index =
        (List.range transaction.size).map fun place : Nat => Value.integer place := by
      refine List.ext_getElem (by simp [transaction.length_statements]) fun place left right => ?_
      simpa using (numbered.statements place _ (List.getElem?_eq_getElem (by simpa using left))).2
    refine (own.map Statement.index).sublist.nodup ?_
    rw [numbers]
    exact List.nodup_range.map fun one other same => Int.ofNat_inj.1 (Value.integer.inj same)
  have ones : (statements.filter Statement.takesSnapshot).map Statement.index =
      List.replicate (statements.filter Statement.takesSnapshot).length (.integer 1) := by
    refine List.eq_replicate_iff.2 ⟨List.length_map _, fun index listed => ?_⟩
    obtain ⟨statement, held, rfl⟩ := List.mem_map.1 listed
    obtain ⟨inside, takes⟩ := List.mem_filter.1 held
    exact ((numbered.takesSnapshot_iff (own.subset inside)).1 takes).1
  have once : ((statements.filter Statement.takesSnapshot).map Statement.index).Nodup :=
    (List.filter_sublist.map Statement.index).nodup places
  rw [ones] at once
  exact List.nodup_replicate.1 once

/-- Of an aborted transaction the results are cut at the lock conflict. -/
theorem Aborted.results_eq {earlier : List Sending} {last : Sending}
    (stands : Aborted transaction earlier last view) :
    view.results = earlier.map Sending.result ++ last.result ::
      (transaction.statements.drop (earlier.length + 1)).map (Run.skipped · true) := by
  rw [stands.results]
  simp

namespace Moment.Final

variable {moment : Moment}

/-- At a final moment the trace keeps how each transaction ended. -/
theorem keeps (final : moment.Final batch) (sound : Sound batch moment) (numbered : batch.Numbered)
    (member : transaction ∈ batch) : moment.progress.trace.Keeps transaction.toTransaction := by
  have own := numbered.each transaction member
  have covered := final.statements_results sound member
  have snapshot : transaction.id ∈ moment.progress.trace.snapshotOrder ↔
      ∃ result ∈ moment.progress.trace.resultsOf transaction.id, result.IsFirstData := by
    have noted : (moment.progress.view transaction.id).snapshots =
        ((moment.sendingsOf transaction.id).filter (·.statement.takesSnapshot)).map
          fun _ => transaction.id := by
      rcases final.ended sound member with ⟨stands, _⟩ | ⟨earlier, last, all, stands⟩
      · exact stands.snapshots
      · rw [all]
        exact stands.snapshots
    have statements : ∀ result ∈ moment.progress.trace.resultsOf transaction.id,
        result.statement ∈ transaction.statements := fun result held =>
      covered ▸ List.mem_map_of_mem held
    constructor
    · intro listed
      have seen : transaction.id ∈ (moment.progress.view transaction.id).snapshots :=
        List.mem_filter.2 ⟨listed, Value.alike_refl _⟩
      rw [noted] at seen
      obtain ⟨sending, held, _⟩ := List.mem_map.1 seen
      obtain ⟨sent, takes⟩ := List.mem_filter.1 held
      have recorded := final.result_mem_view sound member sent
      obtain ⟨index, data⟩ := (own.takesSnapshot_iff (statements _ recorded)).1 takes
      exact ⟨sending.result, recorded, index, data, rfl⟩
    · rintro ⟨result, held, first⟩
      rcases (sound.standing transaction member).mem_results held with
        ⟨sending, sent, carries⟩ | ⟨statement, _, rfl⟩
      · have takes := (own.takesSnapshot_iff (statements result held)).2 ⟨first.index, first.data⟩
        rw [carries.statement] at takes
        have seen : transaction.id ∈ (moment.progress.view transaction.id).snapshots := by
          rw [noted]
          exact List.mem_map.2 ⟨sending, List.mem_filter.2 ⟨sent, takes⟩, rfl⟩
        exact (List.mem_filter.1 seen).1
      · have executed := first.executed
        cases executed
  rcases final.ended sound member with ⟨stands, _⟩ | ⟨earlier, last, all, stands⟩
  · have abort : moment.progress.trace.abortOf? transaction.id = none := stands.abort
    have results : moment.progress.trace.resultsOf transaction.id =
        (moment.sendingsOf transaction.id).map Sending.result := stands.results
    refine ⟨covered, ?_, fun place aborted => ?_, fun _ result held => ?_, snapshot⟩
    · rw [abort, results]
      refine iff_of_false (by simp) ?_
      rintro ⟨result, held, conflict⟩
      obtain ⟨sending, sent, rfl⟩ := List.mem_map.1 held
      have calm := (stands.calm sending sent).calm
      rw [(sending.result_isConflict).1 conflict] at calm
      cases calm
    · rw [abort] at aborted
      cases aborted
    · rw [results] at held
      obtain ⟨sending, _, rfl⟩ := List.mem_map.1 held
      rfl
  · have abort : moment.progress.trace.abortOf? transaction.id = some (.integer earlier.length) :=
      stands.abort
    have results := stands.results_eq
    have conflict := last.result_isConflict.2 stands.conflict
    refine ⟨covered, iff_of_true (by rw [abort]; rfl) ⟨last.result, ?_, conflict⟩,
      fun place aborted => ?_, fun none => ?_, snapshot⟩
    · exact final.result_mem_view sound member (all ▸ List.mem_append_right _ (List.mem_singleton.2 rfl))
    · rw [abort] at aborted
      refine ⟨_, last.result, _, results, conflict,
        (stands.last_index own).trans (Option.some.inj aborted), ?_, ?_⟩
      · intro result held
        obtain ⟨sending, before, rfl⟩ := List.mem_map.1 held
        refine ⟨rfl, fun other => ?_⟩
        have calm := (stands.calm sending before).calm
        rw [(sending.result_isConflict).1 other] at calm
        cases calm
      · intro result held
        obtain ⟨statement, _, rfl⟩ := List.mem_map.1 held
        exact Run.skipped_isGivenUp statement
    · rw [abort] at none
      cases none

/-- At a final moment each transaction has ended once. -/
theorem view_ends (final : moment.Final batch) (sound : Sound batch moment)
    (member : transaction ∈ batch) :
    (moment.progress.view transaction.id).ends = [transaction.id] := by
  rcases final.ended sound member with ⟨stands, all⟩ | ⟨_, _, _, stands⟩
  · rw [stands.ends, if_pos all]
  · exact stands.ends

end Moment.Final

/-- When the interleaved run of a numbered batch returns, each transaction has ended once, none took its
snapshot twice, and the trace keeps of each of them how it ended. -/
theorem interleaved_bookkeeping (numbered : batch.Numbered) {reference : Option Trace}
    {order : Value} {bench after : Bench} {trace : Trace}
    (returned : (Run.run batch .interleaved reference order).Returns bench trace after) :
    (trace.completionOrder.Nodup ∧ trace.completionOrder.Perm batch.ids) ∧
      (trace.snapshotOrder.Nodup ∧ ∀ id ∈ trace.snapshotOrder, id ∈ batch.ids) ∧
        (∀ entry ∈ trace.abortedAt, entry.1 ∈ batch.ids) ∧
          ∀ transaction ∈ batch, trace.Keeps transaction.toTransaction := by
  obtain ⟨last, passes, final, contents, _, rfl⟩ := Run.run_interleaved_returns numbered returned
  have sound : Sound batch last := Sound.of_reached numbered passes.choose_spec.2
  have ended : last.progress.trace.completionOrder.Nodup := by
    refine nodup_of_filter_alike fun id listed => ?_
    obtain ⟨transaction, member, rfl⟩ := List.mem_map.1 (sound.known.ends id listed)
    exact (congrArg List.length (final.view_ends sound member)).le
  have snapshots : last.progress.trace.snapshotOrder.Nodup := by
    refine nodup_of_filter_alike fun id listed => ?_
    obtain ⟨transaction, member, rfl⟩ := List.mem_map.1 (sound.known.snapshots id listed)
    have own := numbered.each transaction member
    rcases final.ended sound member with ⟨stands, _⟩ | ⟨_, _, _, stands⟩
    · exact stands.snapshots_length own
    · exact stands.snapshots_length own
  refine ⟨⟨ended, (List.perm_ext_iff_of_nodup ended numbered.distinct).2 fun id => ?_⟩,
    ⟨snapshots, sound.known.snapshots⟩, sound.known.aborts, fun transaction member => ?_⟩
  · refine ⟨sound.known.ends id, fun listed => ?_⟩
    obtain ⟨transaction, member, rfl⟩ := List.mem_map.1 listed
    have once : transaction.id ∈ (last.progress.view transaction.id).ends := by
      rw [final.view_ends sound member]
      exact List.mem_singleton.2 rfl
    exact (List.mem_filter.1 once).1
  · have kept := final.keeps sound numbered member
    exact ⟨kept.statements, kept.aborted, kept.place, kept.unaborted, kept.snapshot⟩

end

namespace Sample

/-- Two transactions, each of which adds a row to the table that the other one reads. -/
def crossing : Batch := [insertAndRead 1 "t0" "t1", insertAndRead 2 "t1" "t0"]

/-- They are a numbered batch. -/
theorem crossing_numbered : crossing.Numbered where
  each := by
    intro transaction member
    rcases List.mem_pair.1 member with rfl | rfl <;> exact insertAndRead_numbered _ _ _
  distinct := by decide

/-- The first insertion takes two seconds and ends in a deadlock. -/
def oneDeadlock : List Rule :=
  [{ start := some (.text "INSERT"), times := .integer 1, delay := .integer 2,
     answer := .failure (.ok .statement) "deadlock detected" false }]

/-- The first transaction is blocked and then aborted, while the second one comes to its end. -/
theorem crossing_oneDeadlock :
    ((Run.run crossing .interleaved none .null (bench oneDeadlock)).1.toOption.map fun trace =>
        (trace.completionOrder, trace.snapshotOrder, trace.abortedAt)) =
      some ([.integer 2, .integer 1], [.integer 1, .integer 2], [(.integer 1, .integer 1)]) := by
  decide +kernel

end Sample

/-- A transaction that is aborted at its insertion next to one that is not. -/
theorem interleaved_bookkeeping_deadlock :
    ∃ trace after, (Run.run Sample.crossing .interleaved none .null).Returns
        (Sample.bench Sample.oneDeadlock) trace after ∧
      trace.abortedAt = [(.integer 1, .integer 1)] ∧
        trace.completionOrder.Perm Sample.crossing.ids ∧
          ∀ transaction ∈ Sample.crossing, trace.Keeps transaction.toTransaction := by
  obtain ⟨trace, after, returned, seen⟩ := Task.returns_of_map Sample.crossing_oneDeadlock
  have kept := interleaved_bookkeeping Sample.crossing_numbered returned
  exact ⟨trace, after, returned, (Prod.mk.inj (Prod.mk.inj seen).2).2, kept.1.2, kept.2.2.2⟩

end SerialCheck

import SerialCheck.Proofs.Interleaved.Finished

/-!
# A consistent replay

Runs of which every compared statement has the same result, and which leave the same tables behind, are
consistent. So is an interleaved run with a serial run that repeats its turns
(`Finished.compare_consistent`).
-/
namespace SerialCheck

/-- Rows do not differ from themselves. -/
theorem Rows.difference?_self (rows : Option Rows) : difference? rows rows = none := by
  have same : ∀ (texts : List String) (position : Nat),
      firstDifference? position texts texts = none := by
    intro texts
    induction texts with
    | nil => exact fun _ => rfl
    | cons text rest hypothesis =>
      intro position
      rw [firstDifference?, if_pos rfl]
      exact hypothesis _
  cases rows with
  | none => rfl
  | some rows => rw [difference?, if_neg (not_not_intro rfl), same]

namespace Comparison

/-- Neither does a result. -/
theorem statementFinding?_self (result : StatementResult) :
    statementFinding? result result = .ok none := by
  have rows : (Rows.difference? result.rows result.rows).map (rowsFinding result result) = none := by
    rw [Rows.difference?_self, Option.map_none]
  simp [statementFinding?, effectFinding?, Value.alike_refl, rows]

/-- The search for a difference finds none if no compared result has one. -/
theorem firstFinding_none {run : Trace} {results : List StatementResult}
    (same : ∀ test ∈ results, test.isBlocked = false →
      ∃ counterpart, run.resultFor? test.statement = some counterpart ∧
        statementFinding? test counterpart = .ok none) :
    firstFinding? run results = .ok none := by
  induction results with
  | nil => rfl
  | cons test rest hypothesis =>
    have others := hypothesis fun other member => same other (List.mem_cons_of_mem _ member)
    unfold firstFinding?
    split
    · exact others
    next open_ =>
      obtain ⟨counterpart, met, passes⟩ := same test List.mem_cons_self (Bool.eq_false_iff.2 open_)
      rw [met]
      simp only [passes]
      exact others

/-- Equal contents of the tables are consistent. -/
theorem finalVerdict_of_eq {test serial : Trace} (same : test.finalState = serial.finalState) :
    finalVerdict test serial = .consistent := by
  have none : (tableNames test.finalState serial.finalState).findSome?
      (contentsFinding? test.finalState serial.finalState) = none := by
    refine List.findSome?_eq_none_iff.2 fun name listed => ?_
    have known : name ∈ serial.finalState.map Prod.fst := by
      rw [tableNames, ExpectedErrors.mem_distinct, same, List.mem_append, or_self] at listed
      exact listed
    obtain ⟨⟨_, rows⟩, held, rfl⟩ := List.mem_map.1 known
    obtain ⟨found, here⟩ := Option.isSome_iff_exists.1
      (List.lookup_isSome_iff.2 ⟨_, held, beq_self_eq_true _⟩)
    rw [contentsFinding?, same, here]
    simp [Rows.difference?_self]
  rw [finalVerdict, none]

end Comparison

/-- A turn that is played is of the transaction whose statement it is. -/
theorem Run.turn_eq_of_played {batch : Batch} (numbered : batch.Numbered)
    {order : List OpenTransaction} (permuted : order.Perm batch) {aborts : List (Value × Value)}
    {transaction : OpenTransaction} (member : transaction ∈ batch) {turn : Turn}
    (own : turn.statement ∈ transaction.statements) (played : turn ∈ playedTurns aborts order) :
    turn = ⟨transaction, turn.statement⟩ := by
  obtain ⟨listed, ahead⟩ := mem_playedTurns.1 played
  have theirs := (turn.transaction.ahead_prefix _).subset ahead
  obtain ⟨whose, _⟩ := numbered.eq_of_alike (permuted.subset listed) member theirs own
    (Statement.alike_refl _)
  rw [← whose]

namespace Finished

variable {ground : Ground} {batch : Batch} {moment : Moment} {transaction : OpenTransaction}
  {order : List OpenTransaction} {serial : Trace}

/-- A statement that is executed in a serial run which repeats the turns has the result that it had. -/
theorem result_eq (finished : Finished ground.base batch moment) (cast : batch.Cast ground.admin)
    (member : transaction ∈ batch)
    (repeats : Repeats batch ground.base moment.turns moment.progress.trace.abortedAt order)
    (heard : Heard ground.base (Run.playedTurns moment.progress.trace.abortedAt order)
      serial.results)
    {sending : Sending} (sent : sending ∈ moment.sendingsOf transaction.id)
    (own : sending.statement ∈ transaction.statements) (early : sending.isLate = false)
    {counterpart : StatementResult} (held : counterpart ∈ serial.results)
    (executed : counterpart.executed = .boolean true)
    (named : counterpart.statement = sending.statement) : counterpart = sending.result := by
  have numbered := cast.numbered
  obtain ⟨inside, mine⟩ := List.mem_filter.1 sent
  have owner : sending.transaction = transaction :=
    (numbered.alike_iff (finished.sound.sent sending inside) member).1 mine
  obtain ⟨before, turn, after, played, same⟩ := heard counterpart held executed
  have said : turn.statement = sending.statement := by
    rw [← named, same]
    rfl
  have turn_eq : turn = ⟨transaction, sending.statement⟩ := by
    rw [← said] at own ⊢
    exact Run.turn_eq_of_played numbered repeats.permuted member own
      (played ▸ List.mem_append_right before List.mem_cons_self)
  obtain ⟨earlier, later, all⟩ := List.append_of_mem inside
  have sequence : moment.turns =
      earlier.map Sending.turn ++ ⟨transaction, sending.statement⟩ :: later.map Sending.turn := by
    rw [Moment.turns, all, List.map_append, List.map_cons, Sending.turn, owner]
  have answers := repeats.answers transaction member sending.statement own _ _ _ _ sequence
    (turn_eq ▸ played)
  rw [same, turn_eq, answers, Sending.result, early, finished.outcome_eq all, owner]

/-- A serial run that repeats the turns has the same result for a statement that was not blocked, unless
that was the lock conflict at which its transaction was aborted: then the statement is skipped. -/
theorem resultFor_eq (finished : Finished ground.base batch moment) (cast : batch.Cast ground.admin)
    (repeats : Repeats batch ground.base moment.turns moment.progress.trace.abortedAt order)
    {later last : Bench}
    (returned : (Run.run batch .serialized (some (moment.traceOn ground))
      (.array (order.map (·.id)))).Returns later serial last)
    (heard : Heard ground.base (Run.playedTurns moment.progress.trace.abortedAt order)
      serial.results)
    {result : StatementResult} (held : result ∈ moment.progress.trace.results)
    (unblocked : result.isBlocked = false) :
    (result.isLockConflict = .ok false ∧ serial.resultFor? result.statement = some result) ∨
      (result.isLockConflict = .ok true ∧
        serial.resultFor? result.statement = some (Run.skipped result.statement false)) := by
  have numbered := cast.numbered
  obtain ⟨transaction, member, mine, own⟩ := finished.sound.owner numbered held
  obtain ⟨counterpart, found, replayed⟩ :=
    Run.serial_resultFor numbered (repeats.permuted.map _) returned member own
  rw [found]
  rcases finished.final.ahead_or_skipped finished.sound numbered member mine own unblocked
      replayed with ⟨calm, ahead⟩ | ⟨conflict, rfl⟩
  · obtain ⟨sending, sent, rfl, early, _⟩ :=
      finished.final.unblocked finished.sound numbered member mine unblocked
    rw [finished.result_eq cast member repeats heard sent own early
      (List.mem_of_find?_eq_some found) (replayed.executed_of_ahead ahead.isCut)
      replayed.statement_eq]
    exact .inl ⟨calm, rfl⟩
  · exact .inr ⟨conflict, rfl⟩

/-- An interleaved run is consistent with a serial run that repeats its turns. -/
theorem compare_consistent (finished : Finished ground.base batch moment)
    (cast : batch.Cast ground.admin)
    (repeats : Repeats batch ground.base moment.turns moment.progress.trace.abortedAt order)
    {later last : Bench}
    (returned : (Run.run batch .serialized (some (moment.traceOn ground))
      (.array (order.map (·.id)))).Returns later serial last)
    (heard : Heard ground.base (Run.playedTurns moment.progress.trace.abortedAt order)
      serial.results)
    (tables : serial.finalState = (moment.traceOn ground).finalState) :
    Comparison.compare (moment.traceOn ground) serial = .ok .consistent := by
  have none : Comparison.firstFinding? serial moment.progress.trace.results = .ok none := by
    refine Comparison.firstFinding_none fun result held unblocked => ?_
    rcases finished.resultFor_eq cast repeats returned heard held unblocked with
      ⟨_, same⟩ | ⟨conflict, skipped⟩
    · exact ⟨_, same, Comparison.statementFinding?_self _⟩
    · exact ⟨_, skipped, Comparison.conflict_passes conflict _⟩
  rw [Comparison.compare]
  show (Comparison.firstFinding? serial moment.progress.trace.results).map _ = _
  rw [none]
  exact congrArg Except.ok (Comparison.finalVerdict_of_eq tables.symm)

end Finished

end SerialCheck

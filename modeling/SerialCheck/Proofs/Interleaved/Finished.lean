import SerialCheck.Proofs.Contract
import SerialCheck.Proofs.Interleaved.Tracked
import SerialCheck.Proofs.Simulation

/-!
# What an interleaved run comes to

On a ready bench an interleaved run that returns has come to a final moment at which every statement was
answered in its turn, and its trace has the contents that these turns leave in the tables
(`Ready.ended`). A serial run that takes its aborts for a reference commits of every
transaction what that one has committed (`Finished.closed`).
-/
namespace SerialCheck

/-- The statements that a run has sent, in order. -/
def Moment.turns (moment : Moment) : List Turn := moment.sendings.map Sending.turn

/-- A final moment at which every statement was answered in its turn. -/
structure Finished (base : Database) (batch : Batch) (moment : Moment) : Prop where
  /-- Nothing is left. -/
  final : moment.Final batch
  /-- The invariant of the run holds. -/
  sound : Sound batch moment
  /-- Each statement was answered in its turn. -/
  told : Told base moment.sendings

/-- The trace of a run: what the progress of its final moment holds, and the contents of the tables that
its turns have made. -/
def Moment.traceOn (moment : Moment) (ground : Ground) : Trace :=
  { moment.progress.trace with
    finalState :=
      (ground.base.adding (committed ground.base moment.turns)).contents ground.schema.names }

theorem Told.of_matches {base other : Database} {sendings : List Sending}
    (told : Told other sendings) (same : base.Matches other) : Told base sendings := by
  intro earlier sending later cut
  rw [told earlier sending later cut, same.answerAt_eq]

/-- When an interleaved run has come to a final moment, the contents of the tables are read, and the
bench is ready for the next run. -/
theorem Begins.finished {ground : Ground} {batch : Batch} {database : Database} {start : Bench}
    (begins : Begins ground batch database start) (sound : ground.Sound)
    (cast : batch.Cast ground.admin) {moment : Moment} (reached : Run.Reached batch start moment)
    (final : moment.Final batch) :
    Finished ground.base batch moment ∧ ∃ after,
      Bench.snapshot.Returns moment.bench (moment.traceOn ground).finalState after ∧
        Ready ground batch after := by
  have tracked := Tracked.of_reached cast begins.underway reached
  obtain ⟨after, read, ends⟩ := Ready.finish begins sound cast.apart tracked.underway
  refine ⟨⟨final, Sound.of_reached cast.numbered reached,
    tracked.told.of_matches begins.restored⟩, after, ?_, ends⟩
  rw [begins.restored.committed_eq, begins.restored.contents_eq] at read
  · exact read
  · exact fun _ member => knows_of_mem_committed member

/-- At the moment at which an interleaved run on a ready bench ends, every statement was answered in its
turn and the trace is that of the moment; the bench is left ready for the next run. -/
theorem Ready.ended {ground : Ground} {batch : Batch} {bench after : Bench}
    (ready : Ready ground batch bench) (sound : ground.Sound) (cast : batch.Cast ground.admin)
    {trace : Trace} {moment : Moment} (ends : Run.EndsAt batch bench trace after moment) :
    Finished ground.base batch moment ∧ trace = moment.traceOn ground ∧ Ready ground batch after := by
  obtain ⟨⟨start, prepared, reached⟩, final, contents, reading, rfl⟩ := ends
  obtain ⟨begun, tables, again, begins, _⟩ := ready.prepare sound cast.apart .interleaved
  obtain ⟨_, same⟩ := prepared.unique again
  subst same
  obtain ⟨finished, finish, read, left⟩ := begins.finished sound cast reached final
  obtain ⟨rfl, rfl⟩ := reading.unique read
  exact ⟨finished, rfl, left⟩

/-- A part of a transaction commits its rows if it has the commit, which is its last statement. -/
theorem committed_turnsOf {base : Database} {transaction : OpenTransaction}
    (spoken : transaction.Spoken) {statements : List Statement}
    (part : statements <+: transaction.statements) :
    committed base (Run.turnsOf transaction statements) =
      if statements.any (fun statement => decide (statement.command = .commit)) then
        transaction.rows base
      else [] := by
  induction statements using List.reverseRecOn with
  | nil => rfl
  | append_singleton earlier last hypothesis =>
    have shorter : earlier <+: transaction.statements := (List.prefix_append _ _).trans part
    have none : earlier.any (fun statement => decide (statement.command = .commit)) = false := by
      obtain ⟨rest, all⟩ := part
      rw [List.append_assoc] at all
      simpa using spoken.not_commit all.symm (by simp)
    have front : committed base (Run.turnsOf transaction earlier) = [] := by
      rw [hypothesis shorter, none]
      rfl
    have cut : Run.turnsOf transaction (earlier ++ [last]) =
        Run.turnsOf transaction earlier ++ [⟨transaction, last⟩] := by simp [Run.turnsOf]
    rw [cut, committed_append, front, List.any_append, none]
    simp [committed]

/-- Whether a transaction has committed is seen from its statements. -/
theorem hasCommitted_eq (turns : List Turn) (id : Value) :
    hasCommitted turns id =
      (statementsOf turns id).any fun statement => decide (statement.command = .commit) := by
  rw [hasCommitted, statementsOf, List.any_map, List.any_filter]
  rfl

/-- Only statements on tables are answered by errors. -/
theorem answerAt_of_commit (base : Database) (turns : List Turn) (id : Value) :
    (Outcome.ofAnswer (answerAt base turns id .commit)).conflicts = false := rfl

namespace Finished

variable {base : Database} {batch : Batch} {moment : Moment} {transaction : OpenTransaction}

/-- The turns are of transactions of the batch. -/
theorem known (finished : Finished base batch moment) :
    ∀ turn ∈ moment.turns, turn.transaction ∈ batch := by
  intro turn inside
  obtain ⟨sending, sent, rfl⟩ := List.mem_map.1 inside
  exact finished.sound.sent sending sent

/-- A transaction has sent its statements in order. -/
theorem inOrder (finished : Finished base batch moment) (member : transaction ∈ batch) :
    statementsOf moment.turns transaction.id <+: transaction.statements := by
  rw [Moment.turns, moment.statementsOf_turns]
  rcases finished.final.ended finished.sound member with ⟨stands, _⟩ | ⟨earlier, last, all, stands⟩
  · exact stands.statements
  · rw [all]
    exact stands.statements

/-- The outcome of a statement is that of its turn. -/
theorem outcome_eq (finished : Finished base batch moment) {sending : Sending}
    {earlier later : List Sending} (all : moment.sendings = earlier ++ sending :: later) :
    sending.outcome = .ofAnswer (answerAt base (earlier.map Sending.turn) sending.transaction.id
      sending.statement.command) := by
  rw [Sending.outcome, finished.told earlier sending later all]
  rfl

/-- No commit meets a lock conflict. -/
theorem calm_of_commit (finished : Finished base batch moment) {sending : Sending}
    (sent : sending ∈ moment.sendings) (commit : sending.statement.command = .commit) :
    sending.outcome.conflicts = false := by
  obtain ⟨earlier, later, all⟩ := List.append_of_mem sent
  rw [finished.outcome_eq all, commit]
  exact answerAt_of_commit base _ _

/-- A transaction is cut at a statement that it has sent, if it was aborted there; ahead of the cut are
the statements that it has sent, without the one at which it was aborted. -/
theorem ahead_of_cut (finished : Finished base batch moment) (member : transaction ∈ batch) :
    let cut := Run.cutOf moment.progress.trace.abortedAt transaction.id
    (cut = .null ∧ transaction.ahead cut = (moment.sendingsOf transaction.id).map (·.statement)) ∨
      ∃ earlier last, moment.sendingsOf transaction.id = earlier ++ [last] ∧
        last.outcome.conflicts = true ∧ cut = .integer earlier.length ∧
          earlier.length < transaction.size ∧
            transaction.ahead cut = earlier.map (·.statement) := by
  intro cut
  have held : cut = (moment.progress.view transaction.id).abort.getD .null := rfl
  rcases finished.final.ended finished.sound member with ⟨stands, whole⟩ | ⟨earlier, last, all, stands⟩
  · rw [stands.abort] at held
    refine .inl ⟨held, ?_⟩
    rw [held]
    refine (stands.statements.eq_of_length ?_).symm
    rw [List.length_map, whole, transaction.length_statements]
  · rw [stands.abort] at held
    have bound : cut = .integer earlier.length := held
    have within := stands.length_le
    rw [List.length_append, List.length_singleton] at within
    refine .inr ⟨earlier, last, all, stands.conflict, bound, by omega, ?_⟩
    obtain ⟨rest, cover⟩ := stands.statements
    rw [bound]
    show transaction.statements.take earlier.length = _
    rw [← cover]
    simp

/-- A transaction is cut at one of its statements, or nowhere. -/
theorem cuts (finished : Finished base batch moment) (member : transaction ∈ batch) :
    transaction.Cuts (Run.cutOf moment.progress.trace.abortedAt transaction.id) := by
  rcases finished.ahead_of_cut member with ⟨none, _⟩ | ⟨earlier, _, _, _, cut, within, _⟩
  · exact .inl none
  · exact .inr ⟨earlier.length, cut, within⟩

/-- The replay of each transaction commits what that one has committed. -/
theorem closed (finished : Finished base batch moment)
    (spoken : ∀ transaction ∈ batch, transaction.Spoken) :
    Closed batch base moment.turns moment.progress.trace.abortedAt := by
  intro transaction member
  rw [committed_turnsOf (spoken transaction member) (transaction.ahead_prefix _), effect,
    hasCommitted_eq, Moment.turns, moment.statementsOf_turns]
  rcases finished.ahead_of_cut member with ⟨_, ahead⟩ | ⟨earlier, last, all, conflict, _, _, ahead⟩
  · rw [ahead]
  · have sent : last ∈ moment.sendings := by
      have mine : last ∈ moment.sendingsOf transaction.id := by
        rw [all]
        exact List.mem_append_right _ (List.mem_singleton.2 rfl)
      exact (List.mem_filter.1 mine).1
    have other : last.statement.command ≠ .commit := by
      intro commit
      rw [finished.calm_of_commit sent commit] at conflict
      cases conflict
    rw [ahead, all, List.map_append, List.any_append]
    simp [other]

end Finished

end SerialCheck

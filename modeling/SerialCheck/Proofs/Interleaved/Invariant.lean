import SerialCheck.Proofs.Interleaved.Standing

/-!
# What every moment keeps

`Sound` is the invariant of interleaved runs: whatever a moment holds is about the transactions of
the batch, and each of these stands in one of the ways of `Standing`. It holds at the first moment,
each step keeps it (`Sound.next`), and so it holds at every moment that is reached.
-/
namespace SerialCheck

/-- Everything that the progress holds is about transactions of the batch. -/
structure Progress.Known (batch : Batch) (progress : Progress) : Prop where
  /-- The results are of their statements. -/
  results : ∀ result ∈ progress.trace.results,
    ∃ transaction ∈ batch, result.statement ∈ transaction.statements
  /-- So is what is parked. -/
  parked : ∀ parked ∈ progress.parked,
    ∃ transaction ∈ batch, parked.id = transaction.id ∧ parked.statement ∈ transaction.statements
  /-- The snapshots are theirs. -/
  snapshots : ∀ id ∈ progress.trace.snapshotOrder, id ∈ batch.ids
  /-- The ends are theirs. -/
  ends : ∀ id ∈ progress.trace.completionOrder, id ∈ batch.ids
  /-- The aborts are theirs. -/
  aborts : ∀ entry ∈ progress.trace.abortedAt, entry.1 ∈ batch.ids

/-- The number of a transaction of a batch is one of the batch. -/
theorem Batch.id_mem {batch : Batch} {transaction : OpenTransaction} (member : transaction ∈ batch) :
    transaction.id ∈ batch.ids := List.mem_map_of_mem member

namespace Progress.Known

variable {batch : Batch} {progress : Progress} {transaction : OpenTransaction}
  {statement : Statement}

/-- Nothing is held when a run begins. -/
theorem first (batch : Batch) : Progress.Known batch {} where
  results := by simp
  parked := by simp
  snapshots := by simp
  ends := by simp
  aborts := by simp

/-- Aborts are under whole numbers. -/
theorem aborts_whole (known : progress.Known batch) (numbered : batch.Numbered) :
    ∀ entry ∈ progress.trace.abortedAt, entry.1.IsWhole := by
  intro entry member
  obtain ⟨transaction, inside, named⟩ := List.mem_map.1 (known.aborts entry member)
  rw [← named]
  exact numbered.id_isWhole inside

/-- What is parked is under whole numbers. -/
theorem parked_whole (known : progress.Known batch) (numbered : batch.Numbered) :
    ∀ parked ∈ progress.parked, parked.id.IsWhole := by
  intro parked member
  obtain ⟨transaction, inside, named, _⟩ := known.parked parked member
  rw [named]
  exact numbered.id_isWhole inside

/-- A sent statement of the batch keeps the progress about the batch. -/
theorem noteSent (known : progress.Known batch) (member : transaction ∈ batch) :
    (progress.noteSent transaction statement).Known batch := by
  unfold Progress.noteSent Run.noteSnapshot
  split
  · exact
      { known with
        snapshots := by
          intro id noted
          rcases List.mem_append.1 noted with earlier | new
          · exact known.snapshots id earlier
          · rw [List.mem_singleton.1 new]
            exact Batch.id_mem member }
  · exact { known with }

/-- So does a parked one. -/
theorem park (known : progress.Known batch) (member : transaction ∈ batch) {parked : Parked}
    (named : parked.id = transaction.id) (own : parked.statement ∈ transaction.statements) :
    (progress.park parked).Known batch :=
  { known with
    parked := by
      intro other held
      rcases List.mem_append.1 held with earlier | new
      · exact known.parked other earlier
      · rw [List.mem_singleton.1 new]
        exact ⟨transaction, member, named, own⟩ }

/-- So does one that is no longer parked. -/
theorem unpark (known : progress.Known batch) (id : Value) : (progress.unpark id).Known batch :=
  { known with parked := fun parked held => known.parked parked (List.mem_filter.1 held).1 }

/-- So does the result of one. -/
theorem withResult (known : progress.Known batch) (member : transaction ∈ batch)
    {result : StatementResult} (own : result.statement ∈ transaction.statements) :
    (progress.withResult result).Known batch :=
  { known with
    results := by
      intro other held
      rcases List.mem_append.1 held with earlier | new
      · exact known.results other earlier
      · rw [List.mem_singleton.1 new]
        exact ⟨transaction, member, own⟩ }

/-- So does an abort at one. -/
theorem aborted (known : progress.Known batch) (member : transaction ∈ batch) :
    (progress.aborted transaction statement).Known batch :=
  { known with
    results := by
      intro other held
      rcases List.mem_append.1 held with earlier | new
      · exact known.results other earlier
      · obtain ⟨given, up, rfl⟩ := List.mem_map.1 new
        exact ⟨transaction, member, Progress.mem_of_mem_behind up⟩
    aborts := Value.forall_key_put (· ∈ batch.ids) (Batch.id_mem member) known.aborts }

/-- So does the end of a transaction of the batch. -/
theorem noteEnd (known : progress.Known batch) (member : transaction ∈ batch) :
    (Run.noteEnd transaction statement progress).Known batch := by
  unfold Run.noteEnd
  split
  · exact
      { known with
        ends := by
          intro id noted
          rcases List.mem_append.1 noted with earlier | new
          · exact known.ends id earlier
          · rw [List.mem_singleton.1 new]
            exact Batch.id_mem member }
  · exact known

/-- So does the outcome of a statement. -/
theorem account (known : progress.Known batch) (member : transaction ∈ batch)
    (own : statement ∈ transaction.statements) (outcome : Outcome) (blocked : Bool) :
    (progress.account transaction statement outcome blocked).Known batch := by
  have recorded := known.withResult member
    (show (Run.resultOf statement outcome blocked).statement ∈ transaction.statements from own)
  unfold Progress.account
  refine noteEnd ?_ member
  split
  · exact recorded.aborted member
  · exact recorded

end Progress.Known

/-- The invariant of an interleaved run. -/
structure Sound (batch : Batch) (moment : Moment) : Prop where
  /-- The progress is about the batch. -/
  known : moment.progress.Known batch
  /-- The statements that were sent are of the batch. -/
  sent : ∀ sending ∈ moment.sendings, sending.transaction ∈ batch
  /-- Each transaction stands in one of the possible ways. -/
  standing : ∀ transaction ∈ batch,
    Standing transaction (moment.sendingsOf transaction.id) (moment.progress.view transaction.id)

namespace Moment

variable {moment : Moment} {sending : Sending} {id : Value}

/-- A sent statement is among those of its transaction. -/
theorem sendingsOf_append {progress : Progress} {bench : Bench} :
    (Moment.mk progress bench (moment.sendings ++ [sending])).sendingsOf sending.transaction.id =
      moment.sendingsOf sending.transaction.id ++ [sending] := by
  simp [sendingsOf, List.filter_append, Value.alike_refl]

/-- A sent statement is not among those of another transaction. -/
theorem sendingsOf_append_other {progress : Progress} {bench : Bench}
    (apart : sending.transaction.id.alike id = false) :
    (Moment.mk progress bench (moment.sendings ++ [sending])).sendingsOf id =
      moment.sendingsOf id := by
  simp [sendingsOf, List.filter_append, apart]

end Moment

namespace Standing

variable {transaction : OpenTransaction} {sendings : List Sending} {view : View}

/-- A transaction with a parked statement waits for it. -/
theorem waiting_of_parked (standing : Standing transaction sendings view) {parked : Parked}
    (held : parked ∈ view.parked) :
    ∃ earlier last, sendings = earlier ++ [last] ∧ Waiting transaction earlier last view ∧
      parked = last.parked := by
  cases standing with
  | going stands =>
    rw [stands.parked] at held
    cases held
  | waiting earlier last all stands =>
    rw [stands.parked] at held
    exact ⟨earlier, last, all, stands, List.mem_singleton.1 held⟩
  | aborted earlier last all stands =>
    rw [stands.parked] at held
    cases held

/-- A transaction that can continue goes on. -/
theorem going_of_canContinue (standing : Standing transaction sendings view)
    (nothing : view.parked = []) (left : view.sent < transaction.size) :
    Going transaction sendings view := by
  cases standing with
  | going stands => exact stands
  | waiting earlier last all stands =>
    rw [stands.parked] at nothing
    cases nothing
  | aborted earlier last all stands =>
    rw [stands.count] at left
    exact absurd left (Nat.lt_irrefl _)

end Standing

namespace Progress

variable {progress : Progress} {transaction : OpenTransaction}

/-- A transaction that can continue has nothing parked and statements left. -/
theorem canContinue_iff : progress.canContinue transaction = true ↔
    (progress.view transaction.id).parked = [] ∧
      (progress.view transaction.id).sent < transaction.size := by
  simp [canContinue, isParked, view]

/-- The transactions that can send a statement are of the batch. -/
theorem mem_runnable {batch : Batch} : transaction ∈ progress.runnable batch ↔
    transaction ∈ batch ∧ progress.canContinue transaction = true := List.mem_filter

end Progress

namespace Sound

variable {batch : Batch} {moment after : Moment}

/-- The first moment is sound. -/
theorem first (batch : Batch) (start : Bench) : Sound batch (.first start) where
  known := .first batch
  sent := by simp [Moment.first]
  standing := fun transaction _ => .going (Going.first transaction)

/-- A parked statement is the last one that its transaction sent. -/
theorem waiting_of_found (sound : Sound batch moment) (numbered : batch.Numbered) {parked : Parked}
    {transaction : OpenTransaction} (waiting : parked ∈ moment.progress.parked)
    (found : batch.find? parked.id = some transaction) :
    transaction ∈ batch ∧ parked.id = transaction.id ∧
      ∃ earlier last, moment.sendingsOf transaction.id = earlier ++ [last] ∧
        Waiting transaction earlier last (moment.progress.view transaction.id) ∧
          parked = last.parked := by
  obtain ⟨owner, member, named, own⟩ := sound.known.parked parked waiting
  have same : owner = transaction := by
    rw [named, numbered.find?_eq member] at found
    exact Option.some.inj found
  subst same
  have inView : parked ∈ (moment.progress.view owner.id).parked :=
    List.mem_filter.2 ⟨waiting, by rw [named]; exact Value.alike_refl _⟩
  exact ⟨member, named, (sound.standing owner member).waiting_of_parked inView⟩

/-- A settled statement keeps a moment sound. -/
theorem settle (sound : Sound batch moment) (numbered : batch.Numbered) {parked : Parked}
    {transaction : OpenTransaction} {outcome : Outcome} (waiting : parked ∈ moment.progress.parked)
    (found : batch.find? parked.id = some transaction) (answered : parked.result = .ok outcome)
    (bench : Bench) :
    Sound batch
      ⟨(moment.progress.unpark parked.id).account transaction parked.statement outcome true, bench,
        moment.sendings⟩ := by
  obtain ⟨member, named, earlier, last, all, stands, held⟩ :=
    sound.waiting_of_found numbered waiting found
  have result : last.reply.result = .ok outcome := by
    rw [held] at answered
    exact answered
  have outcomes : last.outcome = outcome := by simp [Sending.outcome, result, Except.toOption]
  have statements : parked.statement = last.statement := congrArg Parked.statement held
  have own : parked.statement ∈ transaction.statements := statements ▸ stands.last_mem
  refine ⟨(sound.known.unpark parked.id).account member own outcome true, sound.sent, ?_⟩
  intro other inside
  by_cases equal : transaction = other
  · subst equal
    have settled := stands.pending.standing_account (numbered.each transaction member) rfl
      (by rw [outcomes]; exact result)
    rw [outcomes, stands.late, ← statements, ← all] at settled
    rw [Progress.view_account (numbered.each transaction member) own, named, Progress.view_unpark]
    exact settled
  · have apart : transaction.id ≠ other.id := fun ids => equal (numbered.eq_of_id member inside ids)
    have whole := numbered.id_isWhole inside
    rw [Progress.view_account_other (numbered.each transaction member) own whole apart
        ((sound.known.unpark parked.id).aborts_whole numbered),
      Progress.view_unpark_other (named ▸ numbered.id_isWhole member) whole (named ▸ apart)
        (sound.known.parked_whole numbered)]
    exact sound.standing other inside

/-- A sent statement keeps a moment sound if its transaction stands in a possible way then and the
view of no other one is changed. -/
theorem of_sent (sound : Sound batch moment) (numbered : batch.Numbered) {sending : Sending}
    (member : sending.transaction ∈ batch) {progress : Progress} {bench : Bench}
    (known : progress.Known batch)
    (stands : Standing sending.transaction
      (moment.sendingsOf sending.transaction.id ++ [sending]) (progress.view sending.transaction.id))
    (others : ∀ other ∈ batch, sending.transaction.id ≠ other.id →
      progress.view other.id = moment.progress.view other.id) :
    Sound batch ⟨progress, bench, moment.sendings ++ [sending]⟩ where
  known := known
  sent := by
    intro any held
    rcases List.mem_append.1 held with earlier | new
    · exact sound.sent any earlier
    · rw [List.mem_singleton.1 new]
      exact member
  standing := by
    intro other inside
    by_cases equal : sending.transaction = other
    · subst equal
      rw [Moment.sendingsOf_append]
      exact stands
    · have apart : sending.transaction.id ≠ other.id :=
        fun ids => equal (numbered.eq_of_id member inside ids)
      rw [Moment.sendingsOf_append_other
          ((numbered.id_isWhole member).not_alike (numbered.id_isWhole inside) apart),
        others other inside apart]
      exact sound.standing other inside

/-- A statement that is sent keeps a moment sound. -/
theorem send (sound : Sound batch moment) (numbered : batch.Numbered)
    {transaction : OpenTransaction} {statement : Statement} {chosen bench : Bench}
    {progress : Progress} (runnable : transaction ∈ moment.progress.runnable batch)
    (next : transaction.statements[moment.progress.sent transaction.id]? = some statement)
    (sent : (Run.sendStatement transaction statement moment.progress).Returns chosen progress
      bench) :
    Sound batch ⟨progress, bench, moment.sendings ++ [⟨transaction, statement, chosen⟩]⟩ := by
  obtain ⟨member, free⟩ := Progress.mem_runnable.1 runnable
  obtain ⟨nothing, left⟩ := Progress.canContinue_iff.1 free
  have own : statement ∈ transaction.statements := List.mem_of_getElem? next
  have own_numbered : transaction.Numbered := numbered.each transaction member
  let sending : Sending := ⟨transaction, statement, chosen⟩
  let noted := moment.progress.noteSent transaction statement
  have view : noted.view transaction.id =
      (moment.progress.view transaction.id).noteSent transaction statement := Progress.view_noteSent
  have known : noted.Known batch := sound.known.noteSent member
  have going := (sound.standing transaction member).going_of_canContinue nothing left
  have pending : Pending transaction (moment.sendingsOf transaction.id) sending
      (noted.view transaction.id) := view ▸ going.pending_noteSent next
  have empty : (noted.view transaction.id).parked = [] := view ▸ nothing
  obtain ⟨waited, _, went⟩ := Run.sendStatement_returns sent
  by_cases late : sending.isLate = true
  · rw [if_pos late] at went
    rw [went.2]
    refine sound.of_sent numbered member (known.park member rfl own) ?_ ?_
    · have parked : (noted.park sending.parked).view transaction.id = _ := Progress.view_park rfl
      rw [parked]
      exact .waiting _ sending rfl (pending.waiting empty late)
    · intro other inside apart
      have whole := numbered.id_isWhole inside
      exact (Progress.view_park_other (own_numbered.id.not_alike whole apart)).trans
        (Progress.view_noteSent_other whole own_numbered.id apart)
  · rw [if_neg late] at went
    obtain ⟨answered, recorded⟩ := went
    rw [(Run.record_returns recorded).1]
    refine sound.of_sent numbered member (known.account member own _ _) ?_ ?_
    · have stands := pending.standing_account own_numbered empty answered
      rw [Bool.eq_false_iff.2 late] at stands
      rw [Progress.view_account own_numbered own]
      exact stands
    · intro other inside apart
      have whole := numbered.id_isWhole inside
      exact (Progress.view_account_other own_numbered own whole apart
          (known.aborts_whole numbered)).trans
        (Progress.view_noteSent_other whole own_numbered.id apart)

/-- What comes right after a sound moment is sound. -/
theorem next (sound : Sound batch moment) (numbered : batch.Numbered)
    (step : Run.Next batch moment after) : Sound batch after := by
  cases step with
  | settle parked transaction outcome progress bench waiting finished found answered recorded =>
    rw [(Run.record_returns recorded).1]
    exact sound.settle numbered waiting found answered bench
  | send first others transaction statement chosen progress bench runnable picked next sent =>
    have chosen : transaction ∈ moment.progress.runnable batch :=
      runnable ▸ (Run.pick_returns picked).1
    exact sound.send numbered chosen next sent
  | wait first others bench parked none waited =>
    exact ⟨sound.known, sound.sent, sound.standing⟩

/-- Every moment that a run comes to is sound. -/
theorem of_reached (numbered : batch.Numbered) {start : Bench}
    (reached : Run.Reached batch start moment) : Sound batch moment := by
  induction reached with
  | first => exact .first batch start
  | next _ step sound => exact sound.next numbered step

end Sound

end SerialCheck

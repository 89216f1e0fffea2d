import SerialCheck.Proofs.Interleaved.Moments

/-!
# How a transaction stands

At each moment of an interleaved run a transaction goes on, waits for the statement that it
sent last, or has been aborted at that statement. In each case the results that are recorded for
it follow from the statements that it has sent: those before the last one have the results of
their outcomes, in order, and behind an abort come the statements that were given up.
-/
namespace SerialCheck

/-- The statement has an outcome that is no lock conflict. -/
structure Sending.Calm (sending : Sending) : Prop where
  /-- There is an outcome. -/
  answered : sending.reply.result = .ok sending.outcome
  /-- It is no lock conflict. -/
  calm : sending.outcome.conflicts = false

/-- The statements are those that a transaction begins with, and their snapshots are noted. -/
structure Begun (transaction : OpenTransaction) (sendings : List Sending) (view : View) : Prop where
  /-- They are of this transaction. -/
  owner : ∀ sending ∈ sendings, sending.transaction = transaction
  /-- They are its first statements in order. -/
  statements : sendings.map Sending.statement <+: transaction.statements
  /-- Its snapshot is noted as often as one of them takes it. -/
  snapshots : view.snapshots =
    (sendings.filter (·.statement.takesSnapshot)).map fun _ => transaction.id

/-- All statements that the transaction has sent are recorded and none is a lock conflict. -/
structure Going (transaction : OpenTransaction) (sendings : List Sending) (view : View) : Prop
    extends Begun transaction sendings view where
  /-- Every statement has an outcome that is no lock conflict. -/
  calm : ∀ sending ∈ sendings, sending.Calm
  /-- The results are those of the outcomes. -/
  results : view.results = sendings.map Sending.result
  /-- Nothing is parked. -/
  parked : view.parked = []
  /-- There is no abort. -/
  abort : view.abort = none
  /-- As many statements as sent are counted. -/
  count : view.sent = sendings.length
  /-- The end is noted after the last statement. -/
  ends : view.ends = if sendings.length = transaction.size then [transaction.id] else []

/-- All statements but the last one that was sent are recorded. -/
structure Pending (transaction : OpenTransaction) (earlier : List Sending) (last : Sending)
    (view : View) : Prop extends Begun transaction (earlier ++ [last]) view where
  /-- Every earlier statement has an outcome that is no lock conflict. -/
  calm : ∀ sending ∈ earlier, sending.Calm
  /-- The results are those of the earlier outcomes. -/
  results : view.results = earlier.map Sending.result
  /-- There is no abort. -/
  abort : view.abort = none
  /-- As many statements as sent are counted. -/
  count : view.sent = earlier.length + 1
  /-- No end is noted. -/
  ends : view.ends = []

/-- The last statement that the transaction sent is parked. -/
structure Waiting (transaction : OpenTransaction) (earlier : List Sending) (last : Sending)
    (view : View) : Prop extends Pending transaction earlier last view where
  /-- It is late. -/
  late : last.isLate = true
  /-- It is all that is parked. -/
  parked : view.parked = [last.parked]

/-- The transaction was aborted at the last statement that it sent. -/
structure Aborted (transaction : OpenTransaction) (earlier : List Sending) (last : Sending)
    (view : View) : Prop extends Begun transaction (earlier ++ [last]) view where
  /-- Every earlier statement has an outcome that is no lock conflict. -/
  calm : ∀ sending ∈ earlier, sending.Calm
  /-- The last one has an outcome. -/
  answered : last.reply.result = .ok last.outcome
  /-- It is a lock conflict. -/
  conflict : last.outcome.conflicts = true
  /-- The further statements are given up. -/
  results : view.results = (earlier ++ [last]).map Sending.result ++
    (transaction.statements.drop (earlier.length + 1)).map (Run.skipped · true)
  /-- Nothing is parked. -/
  parked : view.parked = []
  /-- The abort is at the last statement. -/
  abort : view.abort = some (.integer earlier.length)
  /-- All statements are counted. -/
  count : view.sent = transaction.size
  /-- The end is noted. -/
  ends : view.ends = [transaction.id]

/-- The ways in which a transaction can stand. -/
inductive Standing (transaction : OpenTransaction) (sendings : List Sending) (view : View) :
    Prop where
  /-- It goes on or has come to its end. -/
  | going (stands : Going transaction sendings view)
  /-- It waits. -/
  | waiting (earlier : List Sending) (last : Sending) (all : sendings = earlier ++ [last])
      (stands : Waiting transaction earlier last view)
  /-- It was aborted. -/
  | aborted (earlier : List Sending) (last : Sending) (all : sendings = earlier ++ [last])
      (stands : Aborted transaction earlier last view)

variable {transaction : OpenTransaction} {sendings earlier : List Sending} {last : Sending}
  {view : View}

/-- A transaction goes on when a run begins. -/
theorem Going.first (transaction : OpenTransaction) : Going transaction [] {} where
  owner := by simp
  statements := List.nil_prefix
  snapshots := rfl
  calm := by simp
  results := rfl
  parked := rfl
  abort := rfl
  count := rfl
  ends := by
    have positive : 2 ≤ transaction.size := transaction.two_le_size
    rw [if_neg (by simp only [List.length_nil]; omega)]

namespace Begun

/-- The last statement stands in its transaction behind the earlier ones. -/
theorem getElem?_last (begun : Begun transaction (earlier ++ [last]) view) :
    transaction.statements[earlier.length]? = some last.statement := by
  obtain ⟨rest, all⟩ := begun.statements
  rw [← all]
  simp

/-- The last statement is one of its transaction. -/
theorem last_mem (begun : Begun transaction (earlier ++ [last]) view) :
    last.statement ∈ transaction.statements := List.mem_of_getElem? begun.getElem?_last

/-- The place of the last statement is the number of the earlier ones. -/
theorem last_index (begun : Begun transaction (earlier ++ [last]) view)
    (numbered : transaction.Numbered) : last.statement.index = .integer earlier.length :=
  (numbered.statements _ _ begun.getElem?_last).2

/-- There are at most as many statements as the transaction has. -/
theorem length_le (begun : Begun transaction sendings view) :
    sendings.length ≤ transaction.size := by
  simpa [Transaction.size] using begun.statements.length_le

/-- The statements behind the last one are dropped by an abort at it. -/
theorem behind_last (begun : Begun transaction (earlier ++ [last]) view)
    (numbered : transaction.Numbered) :
    Run.behind transaction.toTransaction last.statement.index =
      transaction.statements.drop (earlier.length + 1) := by
  rw [begun.last_index numbered]
  rfl

end Begun

/-- A transaction that goes on has its next statement pending once it is sent. -/
theorem Going.pending_noteSent (going : Going transaction sendings view) {statement : Statement}
    {bench : Bench} (next : transaction.statements[view.sent]? = some statement) :
    Pending transaction sendings ⟨transaction, statement, bench⟩
      (view.noteSent transaction statement) where
  owner := by
    intro sending member
    rcases List.mem_append.1 member with known | new
    · exact going.owner sending known
    · rw [List.mem_singleton.1 new]
  statements := by
    obtain ⟨rest, all⟩ := going.statements
    rw [going.count, ← all, List.getElem?_append_right (by simp)] at next
    simp only [List.length_map, Nat.sub_self] at next
    obtain ⟨tail, rfl⟩ := List.head?_eq_some_iff.1 (List.head?_eq_getElem? ▸ next)
    exact ⟨tail, by rw [← all]; simp⟩
  snapshots := by
    by_cases takes : statement.takesSnapshot = true <;>
      simp [View.noteSent, going.snapshots, List.filter_append, takes]
  calm := going.calm
  results := going.results
  abort := going.abort
  count := by simp [View.noteSent, going.count]
  ends := by
    have within : view.sent < transaction.size := (List.getElem?_eq_some_iff.1 next).1
    rw [going.count] at within
    show view.ends = []
    rw [going.ends, if_neg (Nat.ne_of_lt within)]

/-- A late statement is waited for. -/
theorem Pending.waiting (pending : Pending transaction earlier last view)
    (nothing : view.parked = []) (late : last.isLate = true) :
    Waiting transaction earlier last { view with parked := view.parked ++ [last.parked] } where
  owner := pending.owner
  statements := pending.statements
  snapshots := pending.snapshots
  calm := pending.calm
  results := pending.results
  abort := pending.abort
  count := pending.count
  ends := pending.ends
  late := late
  parked := by simp [nothing]

/-- What is no longer parked is still pending. -/
theorem Waiting.pending (waiting : Waiting transaction earlier last view) :
    Pending transaction earlier last { view with parked := [] } where
  owner := waiting.owner
  statements := waiting.statements
  snapshots := waiting.snapshots
  calm := waiting.calm
  results := waiting.results
  abort := waiting.abort
  count := waiting.count
  ends := waiting.ends

/-- A lock conflict aborts the transaction. -/
theorem Pending.aborted_account (pending : Pending transaction earlier last view)
    (numbered : transaction.Numbered) (nothing : view.parked = [])
    (answered : last.reply.result = .ok last.outcome) (conflict : last.outcome.conflicts = true) :
    Aborted transaction earlier last
      (view.account transaction last.statement last.outcome last.isLate) := by
  have noted : view.account transaction last.statement last.outcome last.isLate =
      { (view.withResult last.result).aborted transaction last.statement with
        ends := view.ends ++ [transaction.id] } := by
    simp [View.account, conflict, View.noteEnd, View.aborted, View.withResult, Sending.result]
  rw [noted]
  exact
    { owner := pending.owner
      statements := pending.statements
      snapshots := pending.snapshots
      calm := pending.calm
      answered := answered
      conflict := conflict
      results := by
        simp [View.aborted, View.withResult, pending.results, pending.behind_last numbered]
      parked := nothing
      abort := by simp [View.aborted, pending.last_index numbered]
      count := rfl
      ends := by simp [pending.ends] }

/-- A transaction goes on with any other outcome. -/
theorem Pending.going_account (pending : Pending transaction earlier last view)
    (numbered : transaction.Numbered) (nothing : view.parked = []) (calm : last.Calm) :
    Going transaction (earlier ++ [last])
      (view.account transaction last.statement last.outcome last.isLate) := by
  have length : (earlier ++ [last]).length = earlier.length + 1 := by simp
  have place : last.statement.index.alike (.integer ((transaction.size : Int) - 1)) =
      decide (earlier.length + 1 = transaction.size) := by
    rw [pending.last_index numbered, Value.alike_integer]
    exact decide_eq_decide.2 (by omega)
  have noted : view.account transaction last.statement last.outcome last.isLate =
      { view.withResult last.result with
        ends := if (earlier ++ [last]).length = transaction.size then [transaction.id] else [] } := by
    rw [length]
    by_cases final : earlier.length + 1 = transaction.size <;>
      simp [View.account, calm.calm, View.noteEnd, View.withResult, pending.abort, place, final,
        pending.ends, Sending.result]
  rw [noted]
  exact
    { owner := pending.owner
      statements := pending.statements
      snapshots := pending.snapshots
      calm := by
        intro sending member
        rcases List.mem_append.1 member with known | new
        · exact pending.calm sending known
        · rw [List.mem_singleton.1 new]
          exact calm
      results := by simp [View.withResult, pending.results]
      parked := nothing
      abort := pending.abort
      count := by simp [View.withResult, pending.count]
      ends := rfl }

/-- With its outcome accounted for, a transaction goes on or is aborted. -/
theorem Pending.standing_account (pending : Pending transaction earlier last view)
    (numbered : transaction.Numbered) (nothing : view.parked = [])
    (answered : last.reply.result = .ok last.outcome) :
    Standing transaction (earlier ++ [last])
      (view.account transaction last.statement last.outcome last.isLate) := by
  cases conflict : last.outcome.conflicts with
  | true =>
    exact .aborted earlier last rfl (pending.aborted_account numbered nothing answered conflict)
  | false => exact .going (pending.going_account numbered nothing ⟨answered, conflict⟩)

end SerialCheck

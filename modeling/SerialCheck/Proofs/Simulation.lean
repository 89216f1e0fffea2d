import SerialCheck.Proofs.Serializable

/-!
# The serial run of the serial order

Let no transaction both read and write. Replayed in the serial order of their turns, with those that have
no place in it at the end, the transactions then commit the same rows in the same order
(`committed_completed`) and get the same answers (`Serialized.answerAt_eq`).
-/
namespace SerialCheck

variable {batch : Batch} {base : Database} {turns : List Turn} {order : List OpenTransaction}
  {aborts : List (Value × Value)}

theorem committed_flatMap {α : Type} (parts : List α) (part : α → List Turn) :
    committed base (parts.flatMap part) = parts.flatMap fun one => committed base (part one) :=
  List.flatMap_assoc

/-- Turns of other transactions stand before the snapshot of a transaction. -/
theorem beforeSnapshot_append_of_idle {first second : List Turn} {id : Value}
    (idle : hasTouched base first id = false) :
    beforeSnapshot base (first ++ second) id = first ++ beforeSnapshot base second id := by
  have whole : (first.takeWhile fun turn => !(turn.isOf id && turn.statement.touches base)) =
      first := beforeSnapshot_of_idle idle
  rw [beforeSnapshot, List.takeWhile_append, whole, if_pos rfl]
  rfl

namespace Run

/-- A turn that is played is one of its transaction's block. -/
theorem mem_playedTurns {turn : Turn} : turn ∈ playedTurns aborts order ↔
    turn.transaction ∈ order ∧
      turn.statement ∈ turn.transaction.ahead (cutOf aborts turn.transaction.id) := by
  constructor
  · intro played
    obtain ⟨transaction, listed, here⟩ := List.mem_flatMap.1 played
    obtain ⟨statement, inside, rfl⟩ := List.mem_map.1 here
    exact ⟨listed, inside⟩
  · rintro ⟨listed, inside⟩
    exact List.mem_flatMap.2 ⟨_, listed, List.mem_map.2 ⟨_, inside, rfl⟩⟩

end Run

/-- The order with the transactions of the batch that have no place in it at its end. -/
def completed (batch : Batch) (order : List OpenTransaction) : List OpenTransaction :=
  order ++ batch.filter fun transaction => !(order.any fun other => other.id.alike transaction.id)

/-- What the replay of each transaction commits is what it has committed in the given turns. -/
def Closed (batch : Batch) (base : Database) (turns : List Turn) (aborts : List (Value × Value)) :
    Prop :=
  ∀ transaction ∈ batch,
    committed base (Run.turnsOf transaction (transaction.ahead (Run.cutOf aborts transaction.id))) =
      effect base turns transaction

/-- The replay commits what each transaction of the order has committed. -/
theorem Closed.committed_playedTurns (closed : Closed batch base turns aborts)
    (listed : ∀ transaction ∈ order, transaction ∈ batch) :
    committed base (Run.playedTurns aborts order) = order.flatMap (effect base turns) := by
  rw [Run.playedTurns, committed_flatMap]
  exact List.flatMap_congr fun transaction inside => closed transaction (listed transaction inside)

/-- In the replay a transaction sees what those before it have committed. -/
theorem Closed.committed_beforeSnapshot (closed : Closed batch base turns aborts)
    (numbered : batch.Numbered) {front back : List OpenTransaction} {transaction : OpenTransaction}
    (permuted : (front ++ transaction :: back).Perm batch) (spoken : transaction.Spoken)
    {statement : Statement} (touching : statement.touches base = true) {before after : List Turn}
    (played : Run.playedTurns aborts (front ++ transaction :: back) =
      before ++ ⟨transaction, statement⟩ :: after) :
    committed base (beforeSnapshot base before transaction.id) =
      front.flatMap (effect base turns) := by
  have listed : ∀ other ∈ front, other ∈ batch := fun other inside =>
    permuted.subset (List.mem_append_left _ inside)
  have own : (Turn.mk transaction statement).isOf transaction.id = true := Value.alike_refl _
  obtain ⟨_, ahead⟩ := Run.mem_playedTurns.1
    (played ▸ List.mem_append_right before List.mem_cons_self)
  let statements := transaction.ahead (Run.cutOf aborts transaction.id)
  let block := Run.turnsOf transaction statements
  have split : Run.playedTurns aborts (front ++ transaction :: back) =
      Run.playedTurns aborts front ++ (block ++ Run.playedTurns aborts back) :=
    Run.playedTurns_split aborts front back transaction
  have idle : hasTouched base (Run.playedTurns aborts front) transaction.id = false := by
    rw [hasTouched, Run.statementsOf_playedTurns aborts fun other inside =>
      numbered.not_alike_of_split permuted other (List.mem_append_left _ inside)]
    rfl
  have here : (Turn.mk transaction statement) ∈ block := List.mem_map.2 ⟨statement, ahead, rfl⟩
  have taken : hasTouched base block transaction.id = true :=
    List.any_eq_true.2 ⟨statement, mem_statementsOf here own, touching⟩
  -- the statement is left when the snapshot is taken, so that nothing is committed before
  have nothing : committed base (beforeSnapshot base block transaction.id) = [] := by
    obtain ⟨rest, cut⟩ : beforeSnapshot base block transaction.id <+: block :=
      List.takeWhile_prefix _
    have left : rest ≠ [] := by
      rintro rfl
      rw [List.append_nil] at cut
      rw [← cut] at here
      have untouched := List.mem_takeWhile_imp here
      simp [own, touching] at untouched
    obtain ⟨sent, others, parts, first, last⟩ := List.map_eq_append_iff.1 cut.symm
    obtain ⟨behind, whole⟩ := transaction.ahead_prefix (Run.cutOf aborts transaction.id)
    have all : transaction.statements = sent ++ (others ++ behind) := by
      rw [← List.append_assoc, ← parts]
      exact whole.symm
    have uncommitted := spoken.not_commit all (by
      rw [← last] at left
      simpa using fun none _ => left (by rw [none]; rfl))
    refine List.flatMap_eq_nil_iff.2 fun turn inside => if_neg ?_
    rw [← first] at inside
    obtain ⟨one, held, rfl⟩ := List.mem_map.1 inside
    exact uncommitted one held
  calc
    _ = committed base (beforeSnapshot base
        (Run.playedTurns aborts (front ++ transaction :: back)) transaction.id) := by
      rw [played, beforeSnapshot_append_touching own touching]
    _ = front.flatMap (effect base turns) := by
      rw [split, beforeSnapshot_append_of_idle idle, beforeSnapshot_append _ _ taken,
        committed_append, nothing, List.append_nil, closed.committed_playedTurns listed]

/-- The serial run in an order of the batch repeats the turns: it commits the same rows, and each
statement gets the answer that it got in its turn. -/
structure Repeats (batch : Batch) (base : Database) (turns : List Turn)
    (aborts : List (Value × Value)) (order : List OpenTransaction) : Prop where
  /-- All transactions are run. -/
  permuted : order.Perm batch
  /-- The same is committed. -/
  committed : committed base (Run.playedTurns aborts order) = committed base turns
  /-- The answers are the same. -/
  answers : ∀ transaction ∈ batch, ∀ statement ∈ transaction.statements,
    ∀ earlier later before after : List Turn, turns = earlier ++ ⟨transaction, statement⟩ :: later →
      Run.playedTurns aborts order = before ++ ⟨transaction, statement⟩ :: after →
        answerAt base before transaction.id statement.command =
          answerAt base earlier transaction.id statement.command

namespace Serialized

/-- A transaction of the batch that is added to the order has no place in it. -/
theorem mem_rest (serialized : Serialized batch base turns order) (numbered : batch.Numbered)
    {transaction : OpenTransaction} :
    transaction ∈ batch.filter
        (fun transaction => !(order.any fun other => other.id.alike transaction.id)) ↔
      transaction ∈ batch ∧ transaction ∉ order := by
  rw [List.mem_filter, Bool.not_eq_true', Bool.eq_false_iff, ne_eq, List.any_eq_true]
  refine and_congr_right fun member => not_congr ?_
  constructor
  · rintro ⟨other, inside, alike⟩
    rw [← (numbered.alike_iff (serialized.known other inside) member).1 alike]
    exact inside
  · exact fun inside => ⟨transaction, inside, Value.alike_refl _⟩

/-- The completed order is one of all transactions of the batch. -/
theorem completed_perm (serialized : Serialized batch base turns order) (numbered : batch.Numbered) :
    (completed batch order).Perm batch := by
  have once : batch.Nodup := List.Nodup.of_map _ numbered.distinct
  refine (List.perm_ext_iff_of_nodup ?_ once).2 fun transaction => ?_
  · refine List.nodup_append.2 ⟨serialized.once, once.filter _, ?_⟩
    rintro one inside other rest rfl
    exact ((serialized.mem_rest numbered).1 rest).2 inside
  · rw [completed, List.mem_append, serialized.mem_rest numbered]
    constructor
    · exact fun either => either.elim (serialized.known transaction) And.left
    · intro member
      by_cases inside : transaction ∈ order
      · exact .inl inside
      · exact .inr ⟨member, inside⟩

/-- The replay in the completed order commits what has been committed. -/
theorem committed_completed (serialized : Serialized batch base turns order)
    (numbered : batch.Numbered) (closed : Closed batch base turns aborts) :
    SerialCheck.committed base (Run.playedTurns aborts (completed batch order)) =
      SerialCheck.committed base turns := by
  have member : ∀ transaction ∈ completed batch order, transaction ∈ batch := fun _ inside =>
    (serialized.completed_perm numbered).subset inside
  have rest : (batch.filter fun transaction =>
      !(order.any fun other => other.id.alike transaction.id)).flatMap (effect base turns) = [] := by
    refine List.flatMap_eq_nil_iff.2 fun transaction outside => ?_
    obtain ⟨known, absent⟩ := (serialized.mem_rest numbered).1 outside
    unfold effect
    split
    next ended =>
      by_contra adds
      exact absent (serialized.writers transaction known adds ended)
    · rfl
  calc
    _ = (completed batch order).flatMap (effect base turns) := closed.committed_playedTurns member
    _ = order.flatMap (effect base turns) := by
      rw [completed, List.flatMap_append, rest, List.append_nil]
    _ = SerialCheck.committed base turns := serialized.committed.symm

/-- A transaction that adds no rows sees the same commits in the replay. -/
theorem committed_beforeSnapshot (serialized : Serialized batch base turns order)
    (numbered : batch.Numbered) (closed : Closed batch base turns aborts)
    {transaction : OpenTransaction} (member : transaction ∈ batch) (spoken : transaction.Spoken)
    (silent : transaction.rows base = []) {statement : Statement}
    (touching : statement.touches base = true) {earlier later before after : List Turn}
    (all : turns = earlier ++ ⟨transaction, statement⟩ :: later)
    (played : Run.playedTurns aborts (completed batch order) =
      before ++ ⟨transaction, statement⟩ :: after) :
    SerialCheck.committed base (beforeSnapshot base before transaction.id) =
      SerialCheck.committed base (beforeSnapshot base earlier transaction.id) := by
  have own : (Turn.mk transaction statement).isOf transaction.id = true := Value.alike_refl _
  have touched : hasTouched base turns transaction.id = true := by
    have here : (Turn.mk transaction statement) ∈ turns := by
      rw [all]
      exact List.mem_append_right _ List.mem_cons_self
    exact List.any_eq_true.2 ⟨statement, mem_statementsOf here own, touching⟩
  obtain ⟨front, back, place, seen⟩ := serialized.readers transaction member silent touched
  obtain ⟨rest, completion⟩ : ∃ rest, completed batch order = front ++ transaction :: rest :=
    ⟨_, by rw [completed, place, List.append_assoc, List.cons_append]⟩
  have permuted := serialized.completed_perm numbered
  rw [completion] at permuted played
  calc
    _ = front.flatMap (effect base turns) :=
      closed.committed_beforeSnapshot numbered permuted spoken touching played
    _ = SerialCheck.committed base (beforeSnapshot base earlier transaction.id) := by
      rw [← seen, all, beforeSnapshot_append_touching own touching]

end Serialized

/-- Only data statements touch tables. -/
theorem Transaction.Spoken.mem_data_of_touches {transaction : Transaction}
    (spoken : transaction.Spoken) {statement : Statement} (own : statement ∈ transaction.statements)
    (touching : statement.touches base = true) : statement ∈ transaction.data := by
  obtain ⟨place, found⟩ := List.mem_iff_getElem?.1 own
  rcases transaction.at_place found with ⟨_, rfl⟩ | ⟨_, _, inside⟩ | ⟨_, rfl⟩
  · simp [Statement.touches, spoken.opening] at touching
  · exact inside
  · have closing := spoken.closing
    split at closing <;> simp [Statement.touches, closing] at touching

/-- The data statements all return rows, or none of them does. -/
def Transaction.OneSided (transaction : Transaction) : Prop :=
  (∀ statement ∈ transaction.data, statement.kind.returnsRows = true) ∨
    ∀ statement ∈ transaction.data, statement.kind.returnsRows = false

/-- A transaction that only reads adds no rows. -/
theorem Transaction.Spoken.rows_of_reading {transaction : Transaction} (spoken : transaction.Spoken)
    (reads : ∀ statement ∈ transaction.data, statement.kind.returnsRows = true) (base : Database) :
    ∀ statement ∈ transaction.statements, statement.rows base = [] := by
  intro statement member
  obtain ⟨place, found⟩ := List.mem_iff_getElem?.1 member
  rcases transaction.at_place found with ⟨_, rfl⟩ | ⟨_, _, inside⟩ | ⟨_, rfl⟩
  · simp [Statement.rows, spoken.opening]
  · obtain ⟨name, read⟩ := spoken.read statement inside (reads statement inside)
    simp [Statement.rows, read]
  · have closing := spoken.closing
    split at closing <;> simp [Statement.rows, closing]

/-- Statements that add no rows add none together. -/
theorem rowsOf_eq_nil {statements : List Statement}
    (silent : ∀ statement ∈ statements, statement.rows base = []) : rowsOf base statements = [] :=
  List.flatMap_eq_nil_iff.2 silent

/-- In the replay each statement gets the answer that it got before. -/
theorem Serialized.answerAt_eq (serialized : Serialized batch base turns order)
    (numbered : batch.Numbered) (closed : Closed batch base turns aborts)
    {transaction : OpenTransaction} (member : transaction ∈ batch) (spoken : transaction.Spoken)
    (divided : transaction.OneSided) {statement : Statement}
    (own : statement ∈ transaction.statements)
    (inOrder : statementsOf turns transaction.id <+: transaction.statements)
    {earlier later before after : List Turn}
    (all : turns = earlier ++ ⟨transaction, statement⟩ :: later)
    (played : Run.playedTurns aborts (completed batch order) =
      before ++ ⟨transaction, statement⟩ :: after) :
    answerAt base before transaction.id statement.command =
      answerAt base earlier transaction.id statement.command := by
  refine answerAt_congr fun name table reads present => ?_
  have touching : statement.touches base = true := by
    simp [Statement.touches, reads, Database.Knows, present]
  have reading : ∀ one ∈ transaction.data, one.kind.returnsRows = true := by
    have inside : statement ∈ transaction.data := spoken.mem_data_of_touches own touching
    rcases divided with all | none
    · exact all
    · obtain ⟨other, writes⟩ := spoken.write statement inside (none statement inside)
      rw [reads] at writes
      cases writes
  have silent := spoken.rows_of_reading reading base
  have seen := serialized.committed_beforeSnapshot numbered closed member spoken
    (rowsOf_eq_nil silent) touching all played
  have mineBefore : rowsOf base (statementsOf earlier transaction.id) = [] := by
    refine rowsOf_eq_nil fun one held => silent one (inOrder.subset ?_)
    rw [all, statementsOf_append]
    exact List.mem_append_left _ held
  have mineLater : rowsOf base (statementsOf before transaction.id) = [] := by
    refine rowsOf_eq_nil fun one held => silent one ?_
    obtain ⟨turn, sent, rfl⟩ := List.mem_map.1 held
    obtain ⟨held, mine⟩ := List.mem_filter.1 sent
    obtain ⟨listed, ahead⟩ := Run.mem_playedTurns.1 (played ▸ List.mem_append_left _ held)
    have same := (numbered.alike_iff
      ((serialized.completed_perm numbered).subset listed) member).1 mine
    rw [same] at ahead
    exact (transaction.ahead_prefix _).subset ahead
  rw [rowsSeen, rowsSeen, seen, mineBefore, mineLater]

/-- If no transaction both reads and writes, the replay in the serial order repeats the turns. -/
theorem Serialized.repeats (serialized : Serialized batch base turns order)
    (numbered : batch.Numbered) (closed : Closed batch base turns aborts)
    (spoken : ∀ transaction ∈ batch, transaction.Spoken)
    (divided : ∀ transaction ∈ batch, transaction.OneSided)
    (inOrder : ∀ transaction ∈ batch,
      statementsOf turns transaction.id <+: transaction.statements) :
    Repeats batch base turns aborts (completed batch order) where
  permuted := serialized.completed_perm numbered
  committed := serialized.committed_completed numbered closed
  answers := fun transaction member _ own _ _ _ _ => serialized.answerAt_eq numbered closed member
    (spoken transaction member) (divided transaction member) own (inOrder transaction member)

end SerialCheck

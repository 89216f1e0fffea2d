import Mathlib.Data.List.Induction
import SerialCheck.Proofs.Serial.Played

/-!
# A serial order for turns

Transactions whose statements alternate have a serial order: those that add rows stand where they
committed, and those that add none where they took their snapshots (`exists_serialized`). Up to any of
the latter, the transactions before it in that order have committed exactly what it sees.
-/
namespace SerialCheck

/-- Only the last statement of a transaction can be a commit. -/
theorem Transaction.Spoken.commit_last {transaction : Transaction} (spoken : transaction.Spoken)
    {statement : Statement} {place : Nat}
    (found : transaction.statements[place]? = some statement)
    (commits : statement.command = .commit) : place + 1 = transaction.size := by
  rcases transaction.at_place found with ⟨_, rfl⟩ | ⟨_, _, inside⟩ | ⟨final, _⟩
  · rw [spoken.opening] at commits
    cases commits
  · cases returns : statement.kind.returnsRows with
    | true =>
      obtain ⟨name, reads⟩ := spoken.read statement inside returns
      rw [reads] at commits
      cases commits
    | false =>
      obtain ⟨name, writes⟩ := spoken.write statement inside returns
      rw [writes] at commits
      cases commits
  · exact final

/-- A transaction that has statements left has not sent its commit. -/
theorem Transaction.Spoken.not_commit {transaction : Transaction} (spoken : transaction.Spoken)
    {sent rest : List Statement} (all : transaction.statements = sent ++ rest) (left : rest ≠ []) :
    ∀ statement ∈ sent, statement.command ≠ .commit := by
  intro statement inside commits
  obtain ⟨place, within, found⟩ := List.mem_iff_getElem.1 inside
  have there : transaction.statements[place]? = some statement := by
    rw [all, List.getElem?_append_left within, List.getElem?_eq_getElem within, found]
  have final := spoken.commit_last there commits
  have size : transaction.size = sent.length + rest.length := by
    rw [← transaction.length_statements, all, List.length_append]
  have positive := List.length_pos_iff.2 left
  omega

/-- The transaction has sent its commit. -/
def hasCommitted (turns : List Turn) (id : Value) : Bool :=
  turns.any fun turn => turn.isOf id && decide (turn.statement.command = .commit)

/-- The transaction has sent a statement on a known table, and so has a snapshot. -/
def hasTouched (base : Database) (turns : List Turn) (id : Value) : Bool :=
  (statementsOf turns id).any (Statement.touches base)

/-- The rows that a transaction has committed. -/
def effect (base : Database) (turns : List Turn) (transaction : OpenTransaction) : TableRows :=
  if hasCommitted turns transaction.id then transaction.rows base else []

/-- An order of transactions in which those before one that adds no rows have committed what it
sees, and all of them have committed what there is. -/
structure Serialized (batch : Batch) (base : Database) (turns : List Turn)
    (order : List OpenTransaction) : Prop where
  /-- No transaction stands there twice. -/
  once : order.Nodup
  /-- The transactions are of the batch. -/
  known : ∀ transaction ∈ order, transaction ∈ batch
  /-- Those that add rows have committed them, and the others have a snapshot. -/
  reason : ∀ transaction ∈ order,
    if transaction.rows base = [] then hasTouched base turns transaction.id = true
    else hasCommitted turns transaction.id = true
  /-- Those that have committed rows stand there. -/
  writers : ∀ transaction ∈ batch, transaction.rows base ≠ [] →
    hasCommitted turns transaction.id = true → transaction ∈ order
  /-- What is committed are their effects in order. -/
  committed : committed base turns = order.flatMap (effect base turns)
  /-- What a transaction that adds no rows sees are the effects of those before it. -/
  readers : ∀ transaction ∈ batch, transaction.rows base = [] →
    hasTouched base turns transaction.id = true →
      ∃ before after, order = before ++ transaction :: after ∧
        SerialCheck.committed base (beforeSnapshot base turns transaction.id) =
          before.flatMap (effect base turns)

namespace Serialized

variable {batch : Batch} {base : Database} {turns : List Turn} {order : List OpenTransaction}
  {turn : Turn}

theorem hasCommitted_append {id : Value} :
    hasCommitted (turns ++ [turn]) id =
      (hasCommitted turns id || (turn.isOf id && decide (turn.statement.command = .commit))) := by
  simp [hasCommitted]

theorem hasTouched_append_other {id : Value} (other : turn.isOf id = false) :
    hasTouched base (turns ++ [turn]) id = hasTouched base turns id := by
  rw [hasTouched, statementsOf_append, statementsOf_singleton_other other, List.append_nil]
  rfl

theorem hasTouched_append {id : Value} (own : turn.isOf id = true) :
    hasTouched base (turns ++ [turn]) id =
      (hasTouched base turns id || turn.statement.touches base) := by
  rw [hasTouched, statementsOf_append, statementsOf_singleton own, List.any_append]
  simp [hasTouched]

/-- There is nothing to put in order before the first turn. -/
theorem nil (batch : Batch) (base : Database) : Serialized batch base [] [] where
  once := List.nodup_nil
  known := by simp
  reason := by simp
  writers := by simp [hasCommitted]
  committed := rfl
  readers := by simp [hasTouched, statementsOf]

/-- What was seen before a turn is still seen after it, if it changes the effect of no transaction
of the order. -/
theorem readers_append (serialized : Serialized batch base turns order)
    (same : ∀ other ∈ order, effect base (turns ++ [turn]) other = effect base turns other)
    (tail : List OpenTransaction) {transaction : OpenTransaction} (member : transaction ∈ batch)
    (silent : transaction.rows base = []) (touched : hasTouched base turns transaction.id = true) :
    ∃ before after, order ++ tail = before ++ transaction :: after ∧
      SerialCheck.committed base (beforeSnapshot base (turns ++ [turn]) transaction.id) =
        before.flatMap (effect base (turns ++ [turn])) := by
  obtain ⟨before, after, cut, seen⟩ := serialized.readers transaction member silent touched
  refine ⟨before, after ++ tail, by rw [cut]; simp, ?_⟩
  rw [beforeSnapshot_append _ _ touched, seen]
  refine List.flatMap_congr fun other inside => ?_
  rw [same other (by rw [cut]; exact List.mem_append_left _ inside)]

/-- A turn that neither commits rows nor is the first on a known table of a transaction that adds none
leaves the order. -/
theorem keep (serialized : Serialized batch base turns order) (numbered : batch.Numbered)
    (member : turn.transaction ∈ batch)
    (quiet : turn.statement.command = .commit → turn.transaction.rows base = [])
    (later : turn.transaction.rows base = [] → turn.statement.touches base = true →
      hasTouched base turns turn.transaction.id = true) :
    Serialized batch base (turns ++ [turn]) order := by
  have owner : ∀ other ∈ batch, turn.isOf other.id = true → turn.transaction = other :=
    fun other inside same => (numbered.alike_iff member inside).1 same
  have commits : ∀ other ∈ batch, other.rows base ≠ [] →
      hasCommitted (turns ++ [turn]) other.id = hasCommitted turns other.id := by
    intro other inside adds
    rw [hasCommitted_append, Bool.or_eq_left_iff_imp]
    intro both
    rw [Bool.and_eq_true, decide_eq_true_eq] at both
    exact absurd (owner other inside both.1 ▸ quiet both.2) adds
  have same : ∀ other ∈ batch, effect base (turns ++ [turn]) other = effect base turns other := by
    intro other inside
    unfold effect
    by_cases adds : other.rows base = []
    · rw [adds, ite_self, ite_self]
    · rw [commits other inside adds]
  have touches : ∀ other ∈ batch, other.rows base = [] →
      hasTouched base (turns ++ [turn]) other.id = hasTouched base turns other.id := by
    intro other inside silent
    cases own : turn.isOf other.id with
    | false => exact hasTouched_append_other own
    | true =>
      obtain rfl := owner other inside own
      rw [hasTouched_append own, Bool.or_eq_left_iff_imp]
      exact later silent
  have nothing : SerialCheck.committed base [turn] = [] := by
    unfold SerialCheck.committed
    rw [List.flatMap_singleton]
    split
    next commit => exact quiet commit
    · rfl
  refine ⟨serialized.once, serialized.known, ?_, ?_, ?_, ?_⟩
  · intro other inside
    have known := serialized.known other inside
    have reason := serialized.reason other inside
    split at reason
    next silent =>
      rw [if_pos silent, touches other known silent]
      exact reason
    next adds =>
      rw [if_neg adds, commits other known adds]
      exact reason
  · intro other inside adds committed
    rw [commits other inside adds] at committed
    exact serialized.writers other inside adds committed
  · rw [committed_append, nothing, List.append_nil, serialized.committed]
    refine List.flatMap_congr fun other inside => ?_
    rw [same other (serialized.known other inside)]
  · intro other inside silent touched
    rw [touches other inside silent] at touched
    have seen := serialized.readers_append
      (fun one held => same one (serialized.known one held)) [] inside silent touched
    rw [List.append_nil] at seen
    exact seen

/-- A transaction that commits rows, or that adds none and takes its snapshot, is put at the end. -/
theorem extend (serialized : Serialized batch base turns order) (numbered : batch.Numbered)
    (member : turn.transaction ∈ batch) (fresh : turn.transaction ∉ order)
    (commits : turn.transaction.rows base ≠ [] → turn.statement.command = .commit)
    (touches : turn.transaction.rows base = [] → turn.statement.touches base = true ∧
      hasTouched base turns turn.transaction.id = false) :
    Serialized batch base (turns ++ [turn]) (order ++ [turn.transaction]) := by
  have own : turn.isOf turn.transaction.id = true := Value.alike_refl _
  have others : ∀ other ∈ batch, other ≠ turn.transaction → turn.isOf other.id = false :=
    fun other inside apart => (numbered.id_isWhole member).not_alike (numbered.id_isWhole inside)
      fun ids => apart (numbered.eq_of_id inside member ids.symm)
  have committedOthers : ∀ other ∈ batch, other ≠ turn.transaction →
      hasCommitted (turns ++ [turn]) other.id = hasCommitted turns other.id := by
    intro other inside apart
    rw [hasCommitted_append, others other inside apart, Bool.false_and, Bool.or_false]
  have apart : ∀ other ∈ order, other ≠ turn.transaction := fun other inside same =>
    fresh (same ▸ inside)
  have same : ∀ other ∈ order, effect base (turns ++ [turn]) other = effect base turns other := by
    intro other inside
    unfold effect
    rw [committedOthers other (serialized.known other inside) (apart other inside)]
  have effects : order.flatMap (effect base (turns ++ [turn])) =
      order.flatMap (effect base turns) := List.flatMap_congr same
  have added : SerialCheck.committed base [turn] =
      effect base (turns ++ [turn]) turn.transaction := by
    unfold SerialCheck.committed effect
    rw [List.flatMap_singleton]
    by_cases silent : turn.transaction.rows base = []
    · rw [silent, ite_self, ite_self]
    · have ended : hasCommitted (turns ++ [turn]) turn.transaction.id = true := by
        rw [hasCommitted_append, own, decide_eq_true (commits silent)]
        simp
      rw [if_pos (commits silent), if_pos ended]
  refine ⟨?_, ?_, ?_, ?_, ?_, ?_⟩
  · refine List.nodup_append.2 ⟨serialized.once, List.nodup_singleton _, ?_⟩
    rintro one inside _ single rfl
    exact fresh (List.mem_singleton.1 single ▸ inside)
  · intro other inside
    rcases List.mem_append.1 inside with earlier | new
    · exact serialized.known other earlier
    · rw [List.mem_singleton.1 new]
      exact member
  · intro other inside
    rcases List.mem_append.1 inside with earlier | new
    · have known := serialized.known other earlier
      have reason := serialized.reason other earlier
      rw [hasTouched_append_other (others other known (apart other earlier)),
        committedOthers other known (apart other earlier)]
      exact reason
    · rw [List.mem_singleton.1 new]
      split
      next silent => rw [hasTouched_append own, (touches silent).1, Bool.or_true]
      next adds =>
        rw [hasCommitted_append, own, decide_eq_true (commits adds)]
        simp
  · intro other inside adds committed
    by_cases same : other = turn.transaction
    · rw [same]
      exact List.mem_append_right _ (List.mem_singleton.2 rfl)
    · rw [committedOthers other inside same] at committed
      exact List.mem_append_left _ (serialized.writers other inside adds committed)
  · rw [committed_append, added, serialized.committed, List.flatMap_append, effects,
      List.flatMap_singleton]
  · intro other inside silent touched
    by_cases equal : other = turn.transaction
    · subst equal
      obtain ⟨touching, idle⟩ := touches silent
      refine ⟨order, [], rfl, ?_⟩
      rw [beforeSnapshot_append_touching own touching [], beforeSnapshot_of_idle idle,
        serialized.committed, effects]
    · rw [hasTouched_append_other (others other inside equal)] at touched
      exact serialized.readers_append same [turn.transaction] inside silent touched

/-- Each turn has its place in an order for the turns before it, if no transaction commits twice. -/
theorem append (serialized : Serialized batch base turns order) (numbered : batch.Numbered)
    (member : turn.transaction ∈ batch)
    (once : turn.statement.command = .commit → hasCommitted turns turn.transaction.id = false) :
    ∃ order, Serialized batch base (turns ++ [turn]) order := by
  by_cases silent : turn.transaction.rows base = []
  · by_cases first : turn.statement.touches base = true ∧
        hasTouched base turns turn.transaction.id = false
    · refine ⟨_, serialized.extend numbered member ?_ (fun adds => absurd silent adds) fun _ => first⟩
      intro inside
      have reason := serialized.reason _ inside
      rw [if_pos silent, first.2] at reason
      cases reason
    · refine ⟨order, serialized.keep numbered member (fun _ => silent) fun _ touching => ?_⟩
      rw [← Bool.not_eq_false]
      exact fun none => first ⟨touching, none⟩
  · by_cases commit : turn.statement.command = .commit
    · refine ⟨_, serialized.extend numbered member ?_ (fun _ => commit) fun none => absurd none silent⟩
      intro inside
      have reason := serialized.reason _ inside
      rw [if_neg silent, once commit] at reason
      cases reason
    · exact ⟨order, serialized.keep numbered member (fun same => absurd same commit)
        fun none => absurd none silent⟩

end Serialized

/-- Transactions that send their statements in order commit at most once, so there is a serial order
for their turns. -/
theorem exists_serialized {batch : Batch} {base : Database} {turns : List Turn}
    (numbered : batch.Numbered) (spoken : ∀ transaction ∈ batch, transaction.Spoken)
    (known : ∀ turn ∈ turns, turn.transaction ∈ batch)
    (inOrder : ∀ transaction ∈ batch,
      statementsOf turns transaction.id <+: transaction.statements) :
    ∃ order, Serialized batch base turns order := by
  induction turns using List.reverseRecOn with
  | nil => exact ⟨[], .nil batch base⟩
  | append_singleton turns turn hypothesis =>
    have before : ∀ other ∈ batch, statementsOf turns other.id <+: other.statements := by
      intro other inside
      refine List.IsPrefix.trans ?_ (inOrder other inside)
      rw [statementsOf_append]
      exact List.prefix_append _ _
    obtain ⟨order, serialized⟩ := hypothesis
      (fun one inside => known one (List.mem_append_left _ inside)) before
    have member := known turn (List.mem_append_right _ (List.mem_singleton.2 rfl))
    refine serialized.append numbered member fun commit => ?_
    have own : turn.isOf turn.transaction.id = true := Value.alike_refl _
    rw [Bool.eq_false_iff]
    intro already
    obtain ⟨earlier, held, both⟩ := List.any_eq_true.1 already
    rw [Bool.and_eq_true, decide_eq_true_eq] at both
    have sent := inOrder turn.transaction member
    rw [statementsOf_append, statementsOf_singleton own] at sent
    obtain ⟨rest, all⟩ := sent
    rw [List.append_assoc] at all
    exact (spoken turn.transaction member).not_commit all.symm (by simp) earlier.statement
      (mem_statementsOf held both.1) both.2

end SerialCheck

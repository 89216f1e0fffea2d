import SerialCheck.Proofs.Interleaved.Bookkeeping
import SerialCheck.Proofs.Simulation

/-!
# Transactions whose work does not overlap

A transaction works from the statement that takes its snapshot to its last one. If nobody takes a snapshot
while another transaction works, the transactions commit in the order of their snapshots
(`Consecutive.committed_eq`), and each of them sees what those before it have committed
(`Consecutive.committed_beforeSnapshot`). So the serial run in that order repeats the turns
(`Consecutive.repeats`). Transactions without data statements take no part in this.
-/
namespace SerialCheck

/-- The transactions that have taken their snapshots, in that order. -/
def takers (turns : List Turn) : List OpenTransaction :=
  (turns.filter (·.statement.takesSnapshot)).map Turn.transaction

/-- Whenever a transaction takes its snapshot, those that took theirs before have no turns left. -/
def Consecutive (turns : List Turn) : Prop :=
  ∀ earlier turn later, turns = earlier ++ turn :: later → turn.statement.takesSnapshot = true →
    ∀ other ∈ takers earlier, other ≠ turn.transaction →
      ∀ further ∈ later, further.transaction ≠ other

/-- The turns are of transactions of the batch, each of which takes its statements in order. -/
structure Batch.Takes (batch : Batch) (turns : List Turn) : Prop where
  /-- The transactions are numbered. -/
  numbered : batch.Numbered
  /-- The engine understands their statements. -/
  spoken : ∀ transaction ∈ batch, transaction.Spoken
  /-- The turns are theirs. -/
  known : ∀ turn ∈ turns, turn.transaction ∈ batch
  /-- They take their statements in order. -/
  inOrder : ∀ transaction ∈ batch,
    statementsOf turns transaction.id <+: transaction.statements

theorem takers_append (first second : List Turn) :
    takers (first ++ second) = takers first ++ takers second := by
  simp [takers, List.filter_append]

theorem takers_cons_of_takes {turn : Turn} (takes : turn.statement.takesSnapshot = true)
    (rest : List Turn) : takers (turn :: rest) = turn.transaction :: takers rest := by
  simp [takers, takes]

theorem takers_singleton_other {turn : Turn} (other : turn.statement.takesSnapshot = false) :
    takers [turn] = [] := by
  simp [takers, other]

theorem mem_takers {turns : List Turn} {transaction : OpenTransaction} :
    transaction ∈ takers turns ↔
      ∃ turn ∈ turns, turn.statement.takesSnapshot = true ∧ turn.transaction = transaction := by
  simp [takers, and_assoc]

/-- Turns in front of others are consecutive if all of them are. -/
theorem Consecutive.left {first second : List Turn} (consecutive : Consecutive (first ++ second)) :
    Consecutive first := by
  rintro earlier turn later rfl takes other taken apart further inside
  exact consecutive earlier turn (later ++ second) (by simp) takes other taken apart further
    (List.mem_append_left _ inside)

namespace Batch.Takes

variable {batch : Batch} {base : Database} {turns earlier later : List Turn} {turn : Turn}
  {transaction : OpenTransaction}

theorem left {first second : List Turn} (takes : batch.Takes (first ++ second)) :
    batch.Takes first where
  numbered := takes.numbered
  spoken := takes.spoken
  known := fun turn inside => takes.known turn (List.mem_append_left _ inside)
  inOrder := by
    intro transaction member
    refine List.IsPrefix.trans ?_ (takes.inOrder transaction member)
    rw [statementsOf_append]
    exact List.prefix_append _ _

/-- The transaction of a turn has taken the statements before that of the turn. -/
theorem split (takes : batch.Takes (earlier ++ turn :: later)) :
    ∃ rest, turn.transaction.statements =
      statementsOf earlier turn.transaction.id ++ turn.statement :: rest := by
  have member := takes.known turn (by simp)
  have own : turn.isOf turn.transaction.id = true := Value.alike_refl _
  obtain ⟨rest, cover⟩ := takes.inOrder turn.transaction member
  have cut : earlier ++ turn :: later = earlier ++ [turn] ++ later := by simp
  rw [cut, statementsOf_append, statementsOf_append, statementsOf_singleton own] at cover
  exact ⟨statementsOf later turn.transaction.id ++ rest, by rw [← cover]; simp⟩

/-- The statement of a turn stands where its transaction has come to. -/
theorem index (takes : batch.Takes (earlier ++ turn :: later)) :
    turn.statement.index = .integer (statementsOf earlier turn.transaction.id).length := by
  obtain ⟨rest, all⟩ := takes.split
  exact (takes.numbered.each _ (takes.known turn (by simp))).index_of_split all

/-- The turns of a transaction are those that carry it. -/
theorem isOf_iff (takes : batch.Takes turns) (inside : turn ∈ turns) (member : transaction ∈ batch) :
    turn.isOf transaction.id = true ↔ turn.transaction = transaction :=
  takes.numbered.alike_iff (takes.known turn inside) member

/-- A statement that takes a snapshot is the first one after the opening. -/
theorem opened (takes : batch.Takes (earlier ++ turn :: later))
    (snapshot : turn.statement.takesSnapshot = true) :
    statementsOf earlier turn.transaction.id = [turn.transaction.opening] := by
  have member := takes.known turn (by simp)
  obtain ⟨rest, all⟩ := takes.split
  have own : turn.statement ∈ turn.transaction.statements := by
    rw [all]
    simp
  have first := (((takes.numbered.each _ member).takesSnapshot_iff own).1 snapshot).1
  have length : (statementsOf earlier turn.transaction.id).length = 1 := by
    have place := takes.index.symm.trans first
    injection place with place
    omega
  obtain ⟨opening, only⟩ := List.length_eq_one_iff.1 length
  rw [only] at all ⊢
  injection all with same
  rw [same]

/-- A transaction takes its snapshot once. -/
theorem once (takes : batch.Takes (earlier ++ turn :: later))
    (snapshot : turn.statement.takesSnapshot = true) : turn.transaction ∉ takers later := by
  intro again
  obtain ⟨other, inside, taken, same⟩ := mem_takers.1 again
  obtain ⟨middle, rest, rfl⟩ := List.append_of_mem inside
  have first := takes.opened snapshot
  have cut : earlier ++ turn :: (middle ++ other :: rest) =
      earlier ++ [turn] ++ middle ++ other :: rest := by simp
  rw [cut] at takes
  have second := takes.opened taken
  have own : turn.isOf turn.transaction.id = true := Value.alike_refl _
  rw [same, statementsOf_append, statementsOf_append, first, statementsOf_singleton own] at second
  simpa using congrArg List.length second

/-- Those that have taken their snapshots are of the batch. -/
theorem takers_known (takes : batch.Takes turns) : ∀ taker ∈ takers turns, taker ∈ batch := by
  intro taker inside
  obtain ⟨turn, held, _, rfl⟩ := mem_takers.1 inside
  exact takes.known turn held

/-- None of them has taken it twice. -/
theorem takers_nodup (takes : batch.Takes turns) : (takers turns).Nodup := by
  induction turns using List.reverseRecOn with
  | nil => exact List.nodup_nil
  | append_singleton turns turn hypothesis =>
    have before := hypothesis takes.left
    cases snapshot : turn.statement.takesSnapshot with
    | false => rwa [takers_append, takers_singleton_other snapshot, List.append_nil]
    | true =>
      rw [takers_append, takers_cons_of_takes snapshot]
      refine List.nodup_append.2 ⟨before, List.nodup_singleton _, ?_⟩
      rintro taker inside _ single rfl
      obtain ⟨other, held, taken, same⟩ := mem_takers.1 inside
      obtain ⟨front, back, rfl⟩ := List.append_of_mem held
      rw [List.append_assoc, List.cons_append] at takes
      refine takes.once taken (mem_takers.2 ⟨turn, by simp, snapshot, ?_⟩)
      rw [same, List.mem_singleton.1 single]

/-- A transaction that has gone beyond its opening has taken its snapshot, if it has data
statements. -/
theorem mem_takers_of_length (takes : batch.Takes turns) (member : transaction ∈ batch)
    (data : transaction.data ≠ [])
    (length : 2 ≤ (statementsOf turns transaction.id).length) : transaction ∈ takers turns := by
  obtain ⟨first, others, all⟩ := List.exists_cons_of_ne_nil data
  have whole : transaction.statements =
      [transaction.opening] ++ first :: (others ++ [transaction.closing]) := by
    rw [Transaction.statements, all]
    rfl
  have sent : first ∈ statementsOf turns transaction.id := by
    obtain ⟨rest, cover⟩ := takes.inOrder transaction member
    have second : (statementsOf turns transaction.id)[1]? = some first := by
      rw [← List.getElem?_append_left (by omega), cover, whole]
      rfl
    exact List.mem_of_getElem? second
  obtain ⟨turn, held, rfl⟩ := List.mem_map.1 sent
  obtain ⟨inside, own⟩ := List.mem_filter.1 held
  have numbered := takes.numbered.each transaction member
  refine mem_takers.2 ⟨turn, inside, ?_, (takes.isOf_iff inside member).1 own⟩
  refine (numbered.takesSnapshot_iff (by rw [whole]; simp)).2 ⟨numbered.index_of_split whole, ?_⟩
  exact transaction.dataOnly turn.statement (by rw [all]; exact List.mem_cons_self)

/-- A transaction that touches a table has taken its snapshot by then. -/
theorem mem_takers_of_touches (takes : batch.Takes (earlier ++ turn :: later))
    (touching : turn.statement.touches base = true) :
    turn.transaction ∈ takers (earlier ++ [turn]) := by
  have member := takes.known turn (by simp)
  have spoken := takes.spoken turn.transaction member
  obtain ⟨rest, all⟩ := takes.split
  have inside : turn.statement ∈ turn.transaction.data :=
    spoken.mem_data_of_touches (by rw [all]; simp) touching
  have cut : earlier ++ turn :: later = earlier ++ [turn] ++ later := by simp
  rw [cut] at takes
  refine takes.left.mem_takers_of_length member (List.ne_nil_of_mem inside) ?_
  have own : turn.isOf turn.transaction.id = true := Value.alike_refl _
  rw [statementsOf_append, statementsOf_singleton own, List.length_append, List.length_singleton]
  have opened : statementsOf earlier turn.transaction.id ≠ [] := by
    intro none
    rw [none] at all
    injection all with same
    rw [← same] at touching
    simp [Statement.touches, spoken.opening] at touching
  have positive := List.length_pos_iff.2 opened
  omega

/-- A transaction that commits rows has taken its snapshot before. -/
theorem mem_takers_of_commit (takes : batch.Takes (earlier ++ turn :: later))
    (commit : turn.statement.command = .commit) (adds : turn.transaction.rows base ≠ []) :
    turn.transaction ∈ takers earlier := by
  have member := takes.known turn (by simp)
  have spoken := takes.spoken turn.transaction member
  have data : turn.transaction.data ≠ [] := by
    obtain ⟨entry, added⟩ := List.exists_mem_of_ne_nil _ adds
    obtain ⟨statement, own, row⟩ := List.mem_flatMap.1 added
    have touching : statement.touches base = true := by
      by_contra idle
      rw [Statement.rows_of_not_touches (Bool.eq_false_iff.2 idle)] at row
      cases row
    exact List.ne_nil_of_mem (spoken.mem_data_of_touches own touching)
  refine takes.left.mem_takers_of_length member data ?_
  obtain ⟨rest, all⟩ := takes.split
  have final := spoken.commit_last (by rw [all]; simp : turn.transaction.statements[
    (statementsOf earlier turn.transaction.id).length]? = some turn.statement) commit
  have size : turn.transaction.size = turn.transaction.data.length + 2 := by
    simp [Transaction.size, Transaction.statements]
  have positive := List.length_pos_iff.2 data
  omega

/-- A transaction that goes on has not committed before. -/
theorem not_hasCommitted (takes : batch.Takes (earlier ++ turn :: later)) :
    hasCommitted earlier turn.transaction.id = false := by
  obtain ⟨rest, all⟩ := takes.split
  refine List.any_eq_false.2 fun one inside => ?_
  rw [Bool.and_eq_true, decide_eq_true_eq]
  rintro ⟨own, commit⟩
  exact (takes.spoken _ (takes.known turn (by simp))).not_commit all (List.cons_ne_nil _ _)
    one.statement (mem_statementsOf inside own) commit

/-- If it goes on with anything but its commit, it still has not. -/
theorem not_hasCommitted_append (takes : batch.Takes (earlier ++ turn :: later))
    (other : turn.statement.command ≠ .commit) :
    hasCommitted (earlier ++ [turn]) turn.transaction.id = false := by
  rw [Serialized.hasCommitted_append, takes.not_hasCommitted, decide_eq_false other, Bool.and_false,
    Bool.or_false]

/-- No commit takes a snapshot. -/
theorem not_commit (takes : batch.Takes (earlier ++ turn :: later))
    (snapshot : turn.statement.takesSnapshot = true) : turn.statement.command ≠ .commit := by
  intro commit
  have member := takes.known turn (by simp)
  obtain ⟨rest, all⟩ := takes.split
  have final := (takes.spoken _ member).commit_last (by rw [all]; simp :
    turn.transaction.statements[(statementsOf earlier turn.transaction.id).length]? =
      some turn.statement) commit
  have closing : turn.statement = turn.transaction.closing := by
    have last : turn.transaction.statements[turn.transaction.size - 1]? =
        some turn.transaction.closing := by simp [Transaction.statements, Transaction.size]
    rw [← final, Nat.add_sub_cancel, all] at last
    simpa using last
  have data := (((takes.numbered.each _ member).takesSnapshot_iff (by rw [all]; simp)).1 snapshot).2
  have ends := turn.transaction.closes
  rw [← closing] at ends
  cases word : turn.statement.kind <;>
    simp_all [StatementKind.isControl, StatementKind.isTerminal]

end Batch.Takes

/-- In a serial run every transaction takes its statements in order. -/
theorem Batch.Numbered.takes_playedTurns {batch : Batch} {aborts : List (Value × Value)}
    {order : List OpenTransaction} (numbered : batch.Numbered)
    (spoken : ∀ transaction ∈ batch, transaction.Spoken) (permuted : order.Perm batch) :
    batch.Takes (Run.playedTurns aborts order) where
  numbered := numbered
  spoken := spoken
  known := fun _ played => permuted.subset (Run.mem_playedTurns.1 played).1
  inOrder := by
    intro transaction member
    obtain ⟨front, back, rfl⟩ := List.append_of_mem (permuted.mem_iff.2 member)
    have others := numbered.not_alike_of_split permuted
    rw [Run.playedTurns_split, statementsOf_append, statementsOf_append, Run.statementsOf_turnsOf,
      Run.statementsOf_playedTurns aborts fun other inside =>
        others other (List.mem_append_left _ inside),
      Run.statementsOf_playedTurns aborts fun other inside =>
        others other (List.mem_append_right _ inside), List.nil_append, List.append_nil]
    exact transaction.ahead_prefix _

namespace Consecutive

variable {batch : Batch} {base : Database} {turns earlier later rest : List Turn} {turn : Turn}
  {transaction : OpenTransaction} {aborts : List (Value × Value)}

/-- Nobody takes a snapshot from that of a transaction up to another turn of it. -/
theorem takers_eq_nil (consecutive : Consecutive (earlier ++ turn :: later))
    (takes : batch.Takes (earlier ++ turn :: later))
    (snapshot : turn.statement.takesSnapshot = true)
    (last : ∀ further, later.getLast? = some further → further.transaction = turn.transaction) :
    takers later = [] := by
  refine List.eq_nil_iff_forall_not_mem.2 fun other inside => ?_
  have apart : turn.transaction ≠ other := fun same => takes.once snapshot (same ▸ inside)
  obtain ⟨one, held, taken, rfl⟩ := mem_takers.1 inside
  obtain ⟨front, back, rfl⟩ := List.append_of_mem held
  rcases List.eq_nil_or_concat back with rfl | ⟨middle, further, rfl⟩
  · exact apart (last one (by simp)).symm
  · refine consecutive (earlier ++ turn :: front) one (middle ++ [further]) (by simp) taken
      turn.transaction (mem_takers.2 ⟨turn, by simp, snapshot, rfl⟩) apart further (by simp) ?_
    refine last further ?_
    rw [List.concat_eq_append, ← List.cons_append, ← List.append_assoc, List.getLast?_concat]

/-- Once somebody takes a snapshot, those that took theirs before commit nothing more. -/
theorem effect_eq (consecutive : Consecutive (earlier ++ turn :: later))
    (takes : batch.Takes (earlier ++ turn :: later))
    (snapshot : turn.statement.takesSnapshot = true) (taken : transaction ∈ takers earlier) :
    effect base (earlier ++ turn :: later) transaction = effect base earlier transaction := by
  have apart : transaction ≠ turn.transaction := by
    rintro rfl
    have nodup := takes.takers_nodup
    rw [takers_append, takers_cons_of_takes snapshot] at nodup
    exact (List.nodup_append.1 nodup).2.2 _ taken _ List.mem_cons_self rfl
  have member := takes.left.takers_known transaction taken
  have none : hasCommitted (turn :: later) transaction.id = false := by
    refine List.any_eq_false.2 fun one inside => ?_
    have held : one ∈ earlier ++ turn :: later := List.mem_append_right _ inside
    have other : one.transaction ≠ transaction := by
      rcases List.mem_cons.1 inside with rfl | after
      · exact apart.symm
      · exact consecutive earlier turn later rfl snapshot transaction taken apart one after
    rw [Bool.and_eq_true, not_and]
    exact fun own => absurd ((takes.isOf_iff held member).1 own) other
  rw [effect, effect, hasCommitted, List.any_append]
  show (if (hasCommitted earlier transaction.id || hasCommitted (turn :: later) transaction.id)
    then _ else _) = _
  rw [none, Bool.or_false]

/-- A turn that commits no rows changes nothing about what has been committed in which order. -/
theorem committed_eq_of_quiet (takes : batch.Takes (turns ++ [turn]))
    (before : committed base turns = (takers turns).flatMap (effect base turns))
    (quiet : turn.statement.command = .commit → turn.transaction.rows base = []) :
    committed base (turns ++ [turn]) =
      (takers (turns ++ [turn])).flatMap (effect base (turns ++ [turn])) := by
  have nothing : committed base [turn] = [] := by
    unfold committed
    rw [List.flatMap_singleton]
    split
    next commit => exact quiet commit
    · rfl
  have same : ∀ other ∈ takers turns,
      effect base (turns ++ [turn]) other = effect base turns other := by
    intro other inside
    rw [effect, effect, Serialized.hasCommitted_append]
    by_cases commit : turn.isOf other.id = true ∧ turn.statement.command = .commit
    · obtain rfl := (takes.isOf_iff (by simp) (takes.left.takers_known other inside)).1 commit.1
      rw [quiet commit.2, ite_self, ite_self]
    · rw [not_and] at commit
      cases own : turn.isOf other.id with
      | false => rw [Bool.false_and, Bool.or_false]
      | true => rw [decide_eq_false (commit own), Bool.and_false, Bool.or_false]
  have new : (takers [turn]).flatMap (effect base (turns ++ [turn])) = [] := by
    cases snapshot : turn.statement.takesSnapshot with
    | false => rw [takers_singleton_other snapshot, List.flatMap_nil]
    | true =>
      have open_ := takes.not_hasCommitted_append (takes.not_commit snapshot)
      simp [takers, snapshot, effect, open_]
  rw [committed_append, nothing, List.append_nil, before, takers_append, List.flatMap_append, new,
    List.append_nil, List.flatMap_congr same]

/-- The transaction that commits is the last one that has taken its snapshot. -/
theorem takers_eq_of_commit (consecutive : Consecutive (turns ++ [turn]))
    (takes : batch.Takes (turns ++ [turn])) (commit : turn.statement.command = .commit)
    (adds : turn.transaction.rows base ≠ []) :
    ∃ others, takers turns = others ++ [turn.transaction] ∧
      takers (turns ++ [turn]) = others ++ [turn.transaction] := by
  obtain ⟨one, held, snapshot, same⟩ := mem_takers.1 (takes.mem_takers_of_commit commit adds)
  obtain ⟨earlier, later, rfl⟩ := List.append_of_mem held
  have none : takers (later ++ [turn]) = [] := by
    rw [List.append_assoc, List.cons_append] at consecutive takes
    refine consecutive.takers_eq_nil takes snapshot fun further found => ?_
    rw [List.getLast?_concat] at found
    rw [same, ← Option.some.inj found]
  rw [takers_append, List.append_eq_nil_iff] at none
  have all : takers (earlier ++ one :: later) = takers earlier ++ [turn.transaction] := by
    rw [takers_append, takers_cons_of_takes snapshot, none.1, same]
  exact ⟨takers earlier, all, by rw [takers_append, all, none.2, List.append_nil]⟩

/-- Transactions whose work does not overlap commit in the order of their snapshots. -/
theorem committed_eq (consecutive : Consecutive turns) (takes : batch.Takes turns) :
    committed base turns = (takers turns).flatMap (effect base turns) := by
  induction turns using List.reverseRecOn with
  | nil => rfl
  | append_singleton turns turn hypothesis =>
    have before := hypothesis consecutive.left takes.left
    by_cases commit : turn.statement.command = .commit ∧ turn.transaction.rows base ≠ []
    · obtain ⟨commits, adds⟩ := commit
      obtain ⟨others, earlier, all⟩ := consecutive.takers_eq_of_commit takes commits adds
      have nodup := takes.left.takers_nodup
      rw [earlier] at before nodup
      have own : turn.isOf turn.transaction.id = true := Value.alike_refl _
      have same : ∀ other ∈ others, effect base (turns ++ [turn]) other = effect base turns other := by
        intro other inside
        have foreign : turn.isOf other.id = false := by
          rw [Bool.eq_false_iff]
          intro alike
          have known := takes.left.takers_known other (by rw [earlier]; simp [inside])
          have equal := (takes.isOf_iff (by simp) known).1 alike
          exact (List.nodup_append.1 nodup).2.2 other inside _ List.mem_cons_self equal.symm
        rw [effect, effect, Serialized.hasCommitted_append, foreign, Bool.false_and,
          Bool.or_false]
      have added : committed base [turn] = turn.transaction.rows base := by
        simp [committed, commits]
      have mine : effect base (turns ++ [turn]) turn.transaction = turn.transaction.rows base := by
        simp [effect, Serialized.hasCommitted_append, own, commits]
      have none : effect base turns turn.transaction = [] := by
        simp [effect, takes.not_hasCommitted]
      rw [committed_append, before, added, all, List.flatMap_append, List.flatMap_append,
        List.flatMap_congr same, List.flatMap_singleton, List.flatMap_singleton, none, mine,
        List.append_nil]
    · refine committed_eq_of_quiet takes before fun commits => ?_
      by_contra adds
      exact commit ⟨commits, adds⟩

/-- Nothing is committed from the snapshot of a transaction up to a statement of it that touches a
table. -/
theorem committed_eq_nil {front between : List Turn} {one : Turn}
    (consecutive : Consecutive (earlier ++ [turn])) (takes : batch.Takes (earlier ++ [turn]))
    (touching : turn.statement.touches base = true)
    (cut : earlier ++ [turn] = front ++ one :: between)
    (snapshot : one.statement.takesSnapshot = true) (same : one.transaction = turn.transaction) :
    committed base (one :: between) = [] := by
  have other : turn.statement.command ≠ .commit := by
    intro commit
    simp [Statement.touches, commit] at touching
  have working : effect base (front ++ one :: between) turn.transaction = [] := by
    rw [← cut, effect, takes.not_hasCommitted_append other]
    rfl
  have last : ∀ further, between.getLast? = some further →
      further.transaction = one.transaction := by
    intro further found
    have final := congrArg List.getLast? cut
    rw [List.getLast?_concat, List.getLast?_append, List.getLast?_cons, found] at final
    rw [same, Option.some.inj final]
    rfl
  rw [cut] at consecutive takes
  have none := consecutive.takers_eq_nil takes snapshot last
  have all : committed base (front ++ one :: between) =
      (takers (front ++ one :: between)).flatMap (effect base (front ++ one :: between)) :=
    consecutive.committed_eq takes
  rw [takers_append, takers_cons_of_takes snapshot, none, same, List.flatMap_append,
    List.flatMap_singleton, working, List.append_nil, committed_append,
    List.flatMap_congr fun other inside => consecutive.effect_eq takes snapshot inside,
    ← consecutive.left.committed_eq takes.left] at all
  exact List.append_right_eq_self.1 all

/-- What a transaction that touches a table sees are the effects of those that took their snapshots
before it. -/
theorem committed_beforeSnapshot (consecutive : Consecutive (earlier ++ turn :: later))
    (takes : batch.Takes (earlier ++ turn :: later))
    (touching : turn.statement.touches base = true) :
    ∃ before after, takers (earlier ++ turn :: later) = before ++ turn.transaction :: after ∧
      committed base (beforeSnapshot base earlier turn.transaction.id) =
        before.flatMap (effect base (earlier ++ turn :: later)) := by
  have own : turn.isOf turn.transaction.id = true := Value.alike_refl _
  obtain ⟨one, held, snapshot, same⟩ := mem_takers.1 (takes.mem_takers_of_touches touching)
  obtain ⟨front, between, cut⟩ := List.append_of_mem held
  have whole : earlier ++ turn :: later = front ++ one :: (between ++ later) := by
    rw [← List.singleton_append, ← List.append_assoc, cut, List.append_assoc, List.cons_append]
  have nothing : committed base (one :: between) = [] := by
    rw [← List.singleton_append, ← List.append_assoc] at consecutive takes
    exact consecutive.left.committed_eq_nil takes.left touching cut snapshot same
  rw [whole] at consecutive takes ⊢
  have idle : hasTouched base front turn.transaction.id = false := by
    have spoken := takes.spoken one.transaction (takes.known one (by simp))
    rw [hasTouched, ← same, takes.opened snapshot]
    simp [Statement.touches, spoken.opening]
  have seen : committed base (beforeSnapshot base earlier turn.transaction.id) =
      committed base front := by
    obtain ⟨rest, parts⟩ : beforeSnapshot base (one :: between) turn.transaction.id <+:
      one :: between := List.takeWhile_prefix _
    rw [← parts, committed_append, List.append_eq_nil_iff] at nothing
    rw [← beforeSnapshot_append_touching own touching [], cut, beforeSnapshot_append_of_idle idle,
      committed_append, nothing.1, List.append_nil]
  refine ⟨takers front, takers (between ++ later), ?_, ?_⟩
  · rw [takers_append, takers_cons_of_takes snapshot, same]
  · rw [seen, consecutive.left.committed_eq takes.left]
    exact List.flatMap_congr fun other inside =>
      (consecutive.effect_eq takes snapshot inside).symm

/-- The serial run in the order of the snapshots repeats the turns. -/
theorem repeats (consecutive : Consecutive turns) (takes : batch.Takes turns)
    (closed : Closed batch base turns aborts) {others : List OpenTransaction}
    (permuted : (takers turns ++ others).Perm batch) :
    Repeats batch base turns aborts (takers turns ++ others) where
  permuted := permuted
  committed := by
    have once : (takers turns ++ others).Nodup :=
      permuted.nodup_iff.2 (List.Nodup.of_map _ takes.numbered.distinct)
    have silent : others.flatMap (effect base turns) = [] := by
      refine List.flatMap_eq_nil_iff.2 fun other inside => ?_
      have member := permuted.subset (List.mem_append_right _ inside)
      unfold effect
      split
      next ended =>
        by_contra adds
        obtain ⟨turn, held, both⟩ := List.any_eq_true.1 ended
        rw [Bool.and_eq_true, decide_eq_true_eq] at both
        obtain rfl := (takes.isOf_iff held member).1 both.1
        obtain ⟨earlier, later, rfl⟩ := List.append_of_mem held
        refine (List.nodup_append.1 once).2.2 turn.transaction ?_ _ inside rfl
        rw [takers_append]
        exact List.mem_append_left _ (takes.mem_takers_of_commit both.2 adds)
      · rfl
    rw [closed.committed_playedTurns fun _ inside => permuted.subset inside, List.flatMap_append,
      silent, List.append_nil, consecutive.committed_eq takes]
  answers := by
    rintro transaction member statement own earlier later before after rfl played
    refine answerAt_congr fun name table reads present => ?_
    have touching : statement.touches base = true := by
      simp [Statement.touches, reads, Database.Knows, present]
    obtain ⟨front, back, place, seen⟩ := consecutive.committed_beforeSnapshot takes touching
    have replayed : batch.Takes (before ++ ⟨transaction, statement⟩ :: after) := by
      rw [← played]
      exact takes.numbered.takes_playedTurns takes.spoken permuted
    -- the transaction has sent the same statements before
    have mine : statementsOf before transaction.id = statementsOf earlier transaction.id := by
      obtain ⟨_, first⟩ := replayed.split
      obtain ⟨_, second⟩ := takes.split
      exact (takes.numbered.each transaction member).before_unique first second
    rw [place, List.append_assoc, List.cons_append] at permuted played
    rw [rowsSeen, rowsSeen, mine, seen, closed.committed_beforeSnapshot takes.numbered permuted
      (takes.spoken transaction member) touching played]

end Consecutive

end SerialCheck

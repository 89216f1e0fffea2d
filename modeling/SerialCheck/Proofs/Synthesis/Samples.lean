import Mathlib.Data.List.Perm.Subperm
import SerialCheck.Proofs.Synthesis.Remembered

/-!
# Samples

A sample of a list has as many members as asked for, and they stand at different positions of the list, in
any order. This is what `List.Subperm` says: the sample is a rearrangement of a sublist. It holds of both ways
of sampling, through a pool whose last member takes the place of the drawn one (`Draw.poolMembers_sampled`)
and by positions that are drawn until they are new (`Draw.newPositions_sampled`).
-/
namespace SerialCheck

namespace Draw

variable {α : Type}

/-! ## Through a pool -/

/-- What is left of a pool, whose last member takes the place of the drawn one, is all but the drawn one. -/
theorem perm_of_drawn {pool : List α} {position : Nat} {member last : α}
    (found : pool[position]? = some member) (final : pool.getLast? = some last) :
    (member :: (pool.set position last).dropLast).Perm pool := by
  obtain ⟨within, rfl⟩ := List.getElem?_eq_some_iff.1 found
  have ends : (pool.set position last).getLast? = some last := by
    rw [List.getLast?_eq_getElem?, List.length_set, List.getElem?_set]
    split
    · rfl
    · rw [← List.getLast?_eq_getElem?, final]
  have split : (pool.set position last).dropLast ++ [last] = pool.set position last :=
    List.dropLast_append_getLast? last ends
  have placed : (pool.set position last).Perm (last :: pool.eraseIdx position) :=
    List.set_perm_cons_eraseIdx within last
  have moved : (last :: (pool.set position last).dropLast).Perm (last :: pool.eraseIdx position) := by
    refine List.Perm.trans ?_ placed
    conv_rhs => rw [← split]
    exact (List.perm_append_singleton last _).symm
  have rest : (pool.set position last).dropLast.Perm (pool.eraseIdx position) := moved.cons_inv
  exact (rest.cons _).trans (List.getElem_cons_eraseIdx_perm within)

/-- As many members of a pool as asked for are drawn, at different positions. -/
theorem poolMembers_sampled {count : Nat} {pool : List α} (enough : count ≤ pool.length)
    (randomness : Randomness) :
    (poolMembers count pool randomness).1.length = count ∧
      (poolMembers count pool randomness).1.Subperm pool := by
  induction count generalizing pool randomness with
  | zero => exact ⟨rfl, List.nil_subperm⟩
  | succ count hypothesis =>
    have within := below_lt (show 0 < pool.length by omega) randomness
    rw [poolMembers, bind_apply]
    generalize below pool.length randomness = drawn at within
    obtain ⟨position, later⟩ := drawn
    have found : pool[position]? = some pool[position] := List.getElem?_eq_getElem within
    have some_there : pool ≠ [] := List.ne_nil_of_mem (List.mem_of_getElem? found)
    have final : pool.getLast? = some (pool.getLast some_there) := List.getLast?_eq_some_getLast some_there
    simp only [found, final]
    have left := perm_of_drawn found final
    have fewer : count ≤ (pool.set position (pool.getLast some_there)).dropLast.length := by
      rw [List.length_dropLast, List.length_set]
      omega
    obtain ⟨many, others⟩ := hypothesis fewer later
    rw [bind_apply]
    constructor
    · exact congrArg Nat.succ many
    · exact ((List.subperm_cons _).2 others).trans left.subperm

/-! ## By positions -/

/-- A position that is drawn is new, as long as there are new ones. -/
theorem newPosition_new {size : Nat} {drawn : List Nat} (fewer : drawn.length < size)
    (draws : Nat) (randomness : Randomness) :
    (newPosition size drawn draws randomness).1 < size ∧
      (newPosition size drawn draws randomness).1 ∉ drawn := by
  induction draws generalizing randomness with
  | zero =>
    obtain ⟨free, listed, unused⟩ : ∃ free ∈ List.range size, free ∉ drawn := by
      by_contra none
      have all : ∀ position ∈ List.range size, position ∈ drawn := fun position listed =>
        by_contra fun unused => none ⟨position, listed, unused⟩
      have covered : (List.range size).Subperm drawn := List.subperm_of_subset List.nodup_range all
      have longer := covered.length_le
      rw [List.length_range] at longer
      omega
    have known : ((List.range size).find? fun position => !drawn.contains position).isSome := by
      rw [List.find?_isSome]
      exact ⟨free, listed, by simpa using unused⟩
    obtain ⟨position, found⟩ := Option.isSome_iff_exists.1 known
    have value : (newPosition size drawn 0 randomness).1 = position := by
      show ((List.range size).find? fun position => !drawn.contains position).getD 0 = position
      rw [found, Option.getD_some]
    rw [value]
    have inside := List.mem_of_find?_eq_some found
    have fresh := List.find?_some found
    exact ⟨List.mem_range.1 inside, by simpa using fresh⟩
  | succ draws hypothesis =>
    have within := below_lt (show 0 < size by omega) randomness
    rw [newPosition, bind_apply]
    split
    · exact hypothesis _
    next unused =>
      refine ⟨within, fun held => unused ?_⟩
      exact List.contains_iff_mem.2 held

/-- Positions that are drawn are different ones of the list, as many as asked for. -/
theorem newPositions_new {size count : Nat} {drawn : List Nat} (enough : drawn.length + count ≤ size)
    (different : drawn.Nodup) (inside : ∀ position ∈ drawn, position < size) (randomness : Randomness) :
    (newPositions size count drawn randomness).1.length = drawn.length + count ∧
      (newPositions size count drawn randomness).1.Nodup ∧
        ∀ position ∈ (newPositions size count drawn randomness).1, position < size := by
  induction count generalizing drawn randomness with
  | zero => exact ⟨rfl, different, inside⟩
  | succ count hypothesis =>
    obtain ⟨within, unused⟩ := newPosition_new (show drawn.length < size by omega)
      (size * Source.patience) randomness
    rw [newPositions, bind_apply]
    generalize newPosition size drawn (size * Source.patience) randomness = chosen at within unused
    obtain ⟨position, later⟩ := chosen
    have longer : (drawn ++ [position]).length = drawn.length + 1 := List.length_append
    have apart : (drawn ++ [position]).Nodup :=
      List.nodup_append.2 ⟨different, List.nodup_singleton _, by
        intro known old other new
        rw [List.mem_singleton.1 new]
        rintro rfl
        exact unused old⟩
    have all : ∀ known ∈ drawn ++ [position], known < size := by
      intro known held
      rcases List.mem_append.1 held with old | new
      · exact inside known old
      · rw [List.mem_singleton.1 new]
        exact within
    obtain ⟨many, distinct, bounded⟩ := hypothesis (show (drawn ++ [position]).length + count ≤ size by
      rw [longer]
      omega) apart all later
    refine ⟨?_, distinct, bounded⟩
    rw [many, longer]
    omega

/-- What stands at all positions of a list is the list. -/
theorem filterMap_range (members : List α) :
    (List.range members.length).filterMap (members[·]?) = members := by
  induction members with
  | nil => rfl
  | cons member members hypothesis =>
    rw [List.length_cons, List.range_succ_eq_map, List.filterMap_cons, List.filterMap_map]
    exact congrArg (member :: ·) hypothesis

/-- Members at different positions of a list are a sample of it. -/
theorem sampled_of_positions {members : List α} {positions : List Nat} (different : positions.Nodup)
    (inside : ∀ position ∈ positions, position < members.length) :
    (positions.filterMap (members[·]?)).length = positions.length ∧
      (positions.filterMap (members[·]?)).Subperm members := by
  constructor
  · rw [List.length_filterMap_eq_countP, List.countP_eq_length]
    intro position member
    rw [List.getElem?_eq_getElem (inside position member), Option.isSome_some]
  · have ranged : positions.Subperm (List.range members.length) :=
      List.subperm_of_subset different fun position member => List.mem_range.2 (inside position member)
    obtain ⟨between, same, part⟩ := ranged
    have mapped := part.filterMap (members[·]?)
    rw [filterMap_range] at mapped
    exact ⟨_, same.filterMap _, mapped⟩

/-! ## Both ways -/

theorem reads_poolMembers (count : Nat) (pool : List α) : Reads (poolMembers count pool) := by
  induction count generalizing pool with
  | zero => exact reads_pure _
  | succ count hypothesis =>
    rw [poolMembers]
    refine (reads_fromSource _).bind fun position => ?_
    split
    · exact (hypothesis _).bind fun _ => reads_pure _
    · exact reads_pure _

theorem reads_newPosition (size : Nat) (drawn : List Nat) (draws : Nat) :
    Reads (newPosition size drawn draws) := by
  induction draws with
  | zero => exact reads_pure _
  | succ draws hypothesis =>
    exact (reads_fromSource _).bind fun _ => Reads.ite hypothesis (reads_pure _)

theorem reads_newPositions (size count : Nat) (drawn : List Nat) :
    Reads (newPositions size count drawn) := by
  induction count generalizing drawn with
  | zero => exact reads_pure _
  | succ count hypothesis => exact (reads_newPosition _ _ _).bind fun _ => hypothesis _

/-- A sample of a list has as many members as asked for, from different positions. -/
theorem yields_sample {members : List α} {count : Nat} (enough : count ≤ members.length) :
    Yields (sample members count) fun chosen => chosen.length = count ∧ chosen.Subperm members := by
  unfold sample
  split
  · exact (reads_poolMembers count members).yields (poolMembers_sampled enough)
  · have none : ∀ position ∈ ([] : List Nat), position < members.length :=
      fun _ held => absurd held List.not_mem_nil
    have drawn : Yields (newPositions members.length count []) fun positions =>
        positions.length = count ∧ positions.Nodup ∧
          ∀ position ∈ positions, position < members.length := by
      refine (reads_newPositions _ _ _).yields fun randomness => ?_
      have new := newPositions_new (by simpa using enough) List.nodup_nil none randomness
      simpa using new
    refine drawn.bind fun positions ⟨many, different, inside⟩ => yields_pure ?_
    obtain ⟨same, sampled⟩ := sampled_of_positions different inside
    exact ⟨same.trans many, sampled⟩

end Draw

namespace Attempt

/-- A subset of a list with members is not empty and has members from different positions. -/
theorem yields_subset {α : Type} {members : List α} (some_there : members ≠ []) :
    Yields (subset members) fun chosen => chosen ≠ [] ∧ chosen.Subperm members := by
  have positive : 0 < members.length := List.length_pos_iff.2 some_there
  have range : (1 : Int) < members.length + 1 := by omega
  rw [subset, if_neg (by simpa using some_there)]
  apply (yields_draw (Draw.yields_fresh range)).bind
  intro count bounds
  have enough : count.toNat ≤ members.length := by omega
  apply (yields_draw (Draw.yields_sample enough)).mono
  intro chosen drawn
  have nonempty : chosen ≠ [] := by
    rintro rfl
    have none : count.toNat = 0 := drawn.1.symm
    omega
  exact ⟨nonempty, drawn.2⟩

end Attempt

end SerialCheck

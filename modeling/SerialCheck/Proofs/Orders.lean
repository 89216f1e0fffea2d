import Mathlib.Data.List.Perm.Basic
import Mathlib.Data.Nat.Factorial.Basic
import SerialCheck.Proofs.Numbered
import SerialCheck.Run.Order

/-!
# The candidate orders

The search for candidate orders goes through the permutations of the preferred one as far as there is
room (`search_eq`), so that a limit that is no less than the number of permutations leaves out none of
them (`mem_candidates`).
-/
namespace SerialCheck.Order

variable {α : Type} {members : List α}

/-- A picked member and the rest are the members. -/
theorem perm_of_mem_picks {member : α} {rest : List α} (picked : (member, rest) ∈ picks members) :
    members.Perm (member :: rest) := by
  induction members generalizing member rest with
  | nil => cases picked
  | cons head tail hypothesis =>
    rcases List.mem_cons.1 picked with same | later
    · cases same
      exact .refl _
    · obtain ⟨⟨other, others⟩, inside, same⟩ := List.mem_map.1 later
      cases same
      exact ((hypothesis inside).cons head).trans (.swap _ _ _)

/-- Every member can be picked. -/
theorem exists_mem_picks {member : α} (inside : member ∈ members) :
    ∃ rest, (member, rest) ∈ picks members := by
  induction members with
  | nil => cases inside
  | cons head tail hypothesis =>
    rcases List.mem_cons.1 inside with rfl | later
    · exact ⟨tail, List.mem_cons_self⟩
    · obtain ⟨rest, picked⟩ := hypothesis later
      exact ⟨head :: rest, List.mem_cons_of_mem _ (List.mem_map.2 ⟨_, picked, rfl⟩)⟩

theorem length_picks (members : List α) : (picks members).length = members.length := by
  induction members with
  | nil => rfl
  | cons head tail hypothesis => simp [picks, hypothesis]

/-- Every permutation is enumerated. -/
theorem mem_permutations {order : List α} (permuted : order.Perm members) :
    order ∈ permutations members.length members := by
  induction order generalizing members with
  | nil =>
    rw [List.nil_perm.1 permuted]
    exact List.mem_singleton.2 rfl
  | cons member rest hypothesis =>
    obtain ⟨others, picked⟩ := exists_mem_picks (permuted.subset List.mem_cons_self)
    have cut : members.Perm (member :: others) := perm_of_mem_picks picked
    have left : rest.Perm others := (permuted.trans cut).cons_inv
    have length : members.length = others.length + 1 := cut.length_eq
    rw [length, permutations]
    exact List.mem_flatMap.2 ⟨_, picked, List.mem_map.2 ⟨rest, hypothesis left, rfl⟩⟩

/-- Only permutations are enumerated. -/
theorem perm_of_mem_permutations {order : List α}
    (listed : order ∈ permutations members.length members) : order.Perm members := by
  generalize same : members.length = length at listed
  induction length generalizing members order with
  | zero =>
    rw [List.eq_nil_of_length_eq_zero same, List.mem_singleton.1 listed]
  | succ length hypothesis =>
    obtain ⟨⟨member, rest⟩, picked, inside⟩ := List.mem_flatMap.1 listed
    obtain ⟨behind, further, rfl⟩ := List.mem_map.1 inside
    have cut : members.Perm (member :: rest) := perm_of_mem_picks picked
    have size : members.length = rest.length + 1 := cut.length_eq
    exact ((hypothesis (by omega) further).cons member).trans cut.symm

/-- There are as many permutations as the factorial says. -/
theorem length_permutations (members : List α) :
    (permutations members.length members).length = members.length.factorial := by
  generalize same : members.length = length
  induction length generalizing members with
  | zero => rfl
  | succ length hypothesis =>
    have each : ∀ pick ∈ picks members,
        ((permutations length pick.2).map (pick.1 :: ·)).length = length.factorial := by
      intro pick picked
      have cut : members.length = pick.2.length + 1 := (perm_of_mem_picks picked).length_eq
      rw [List.length_map]
      exact hypothesis pick.2 (by omega)
    have sum : (picks members).map (fun pick => ((permutations length pick.2).map
        (pick.1 :: ·)).length) = (picks members).map fun _ => length.factorial :=
      List.map_congr_left each
    rw [permutations, List.length_flatMap, sum, List.map_const', List.sum_replicate_nat, length_picks,
      same, Nat.factorial_succ]

/-- The permutations behind chosen members that are not the excluded one. -/
def further (excluded chosen rest : List Value) : List (List Value) :=
  ((permutations rest.length rest).map (chosen.reverse ++ ·)).filter
    fun order => !Value.allAlike order excluded

/-- What is found in each part of a search is put behind what was found before, as far as there is
room. -/
theorem foldl_take (room : Nat) (parts : List α) (found : List (List Value))
    (all : α → List (List Value)) (part : α → Nat → List (List Value))
    (each : ∀ one ∈ parts, ∀ left, part one left = (all one).take left) :
    parts.foldl (fun found one => found ++ part one (room - found.length)) (found.take room) =
      (found ++ parts.flatMap all).take room := by
  induction parts generalizing found with
  | nil => simp
  | cons one rest hypothesis =>
    have left : room - (found.take room).length = room - found.length := by
      rw [List.length_take]
      omega
    have step : found.take room ++ part one (room - (found.take room).length) =
        (found ++ all one).take room := by
      rw [each one List.mem_cons_self, left, List.take_append]
    rw [List.foldl_cons, step,
      hypothesis (found ++ all one) fun other inside => each other (List.mem_cons_of_mem _ inside),
      List.flatMap_cons, List.append_assoc]

/-- The search finds the permutations that are not excluded, as far as there is room. -/
theorem search_eq (excluded chosen rest : List Value) (room : Nat) :
    search excluded rest.length chosen rest room = (further excluded chosen rest).take room := by
  generalize same : rest.length = length
  induction length generalizing chosen rest room with
  | zero =>
    have empty : rest = [] := List.eq_nil_of_length_eq_zero same
    subst empty
    cases room with
    | zero => simp [search]
    | succ room =>
      by_cases alike : Value.allAlike chosen.reverse excluded = true
      · simp [search, further, permutations, alike]
      · simp [search, further, permutations, alike]
  | succ length hypothesis =>
    cases room with
    | zero => simp [search]
    | succ room =>
      have each : ∀ pick ∈ picks rest, ∀ left, search excluded length (pick.1 :: chosen) pick.2 left =
          (further excluded (pick.1 :: chosen) pick.2).take left := by
        intro pick picked left
        have cut : rest.length = pick.2.length + 1 := (perm_of_mem_picks picked).length_eq
        exact hypothesis (pick.1 :: chosen) pick.2 left (by omega)
      have parts : (picks rest).flatMap (fun pick => further excluded (pick.1 :: chosen) pick.2) =
          further excluded chosen rest := by
        rw [further, same, permutations, List.map_flatMap, List.filter_flatMap]
        refine List.flatMap_congr fun pick picked => ?_
        have cut : rest.length = pick.2.length + 1 := (perm_of_mem_picks picked).length_eq
        have length_eq : pick.2.length = length := by omega
        rw [further, length_eq, List.map_map]
        simp only [List.reverse_cons, List.append_assoc, List.singleton_append]
        rfl
      have folded := foldl_take (room + 1) (picks rest) [] _ _ each
      rw [List.take_nil, List.nil_append, parts] at folded
      rw [search]
      exact folded

/-- Lists of whole numbers are alike exactly if they are the same. -/
theorem allAlike_iff {lefts rights : List Value} (first : ∀ value ∈ lefts, value.IsWhole)
    (second : ∀ value ∈ rights, value.IsWhole) :
    Value.allAlike lefts rights = true ↔ lefts = rights := by
  induction lefts generalizing rights with
  | nil => cases rights <;> simp [Value.allAlike]
  | cons left lefts hypothesis =>
    cases rights with
    | nil => simp [Value.allAlike]
    | cons right rights =>
      have heads := (first left List.mem_cons_self).alike_iff (second right List.mem_cons_self)
      have tails := hypothesis (fun value inside => first value (List.mem_cons_of_mem _ inside))
        fun value inside => second value (List.mem_cons_of_mem _ inside)
      rw [Value.allAlike, Bool.and_eq_true, heads, tails, List.cons.injEq]

/-- With room for all permutations every one of them is a candidate. -/
theorem mem_candidates {order other : List Value} {limit : Int}
    (whole : ∀ id ∈ order, id.IsWhole) (permuted : other.Perm order)
    (room : (order.length.factorial : Int) ≤ limit) : other ∈ candidates limit order := by
  by_cases same : other = order
  · rw [same]
    exact List.mem_cons_self
  refine List.mem_cons_of_mem _ ?_
  have wholeOther : ∀ id ∈ other, id.IsWhole := fun id inside => whole id (permuted.subset inside)
  have apart : Value.allAlike other order = false := by
    rw [Bool.eq_false_iff]
    exact fun alike => same ((allAlike_iff wholeOther whole).1 alike)
  have all : further order [] order =
      (permutations order.length order).filter fun one => !Value.allAlike one order := by
    simp [further]
  have found : other ∈ further order [] order := by
    rw [all]
    exact List.mem_filter.2 ⟨mem_permutations permuted, by rw [apart]; rfl⟩
  have fewer : (further order [] order).length < order.length.factorial := by
    rw [all, ← length_permutations order]
    refine List.length_filter_lt_length_iff_exists.2 ⟨order, mem_permutations (.refl _), ?_⟩
    simp [Value.allAlike_refl]
  rw [search_eq, List.take_of_length_le (by omega)]
  exact found

/-- Every candidate is a permutation of the preferred order. -/
theorem perm_of_mem_candidates {limit : Int} {order candidate : List Value}
    (listed : candidate ∈ candidates limit order) : candidate.Perm order := by
  rcases List.mem_cons.1 listed with rfl | found
  · exact .refl _
  · rw [search_eq] at found
    obtain ⟨inside, _⟩ := List.mem_filter.1 (List.mem_of_mem_take found)
    obtain ⟨permuted, known, rfl⟩ := List.mem_map.1 inside
    exact perm_of_mem_permutations known

/-- A list of whole numbers has the number exactly if it is among them. -/
theorem has_iff {members : List Value} {id : Value} (whole : ∀ member ∈ members, member.IsWhole)
    (single : id.IsWhole) : has members id = true ↔ id ∈ members := by
  rw [has, List.any_eq_true]
  constructor
  · rintro ⟨other, inside, alike⟩
    rw [← ((whole other inside).alike_iff single).1 alike]
    exact inside
  · exact fun inside => ⟨id, inside, Value.alike_refl _⟩

/-- Whole numbers are added to a list unless they are there. -/
theorem foldl_addNew {found members : List Value} (wholeFound : ∀ id ∈ found, id.IsWhole)
    (whole : ∀ id ∈ members, id.IsWhole) (once : found.Nodup) :
    (members.foldl addNew found).Nodup ∧
      ∀ id, id ∈ members.foldl addNew found ↔ id ∈ found ∨ id ∈ members := by
  induction members generalizing found with
  | nil => exact ⟨once, by simp⟩
  | cons member rest hypothesis =>
    have here : member.IsWhole := whole member List.mem_cons_self
    have others : ∀ id ∈ rest, id.IsWhole := fun id inside =>
      whole id (List.mem_cons_of_mem _ inside)
    have present := has_iff wholeFound here
    rw [List.foldl_cons]
    by_cases known : member ∈ found
    · rw [addNew, if_pos (present.2 known)]
      obtain ⟨nodup, mem⟩ := hypothesis wholeFound others once
      refine ⟨nodup, fun id => ?_⟩
      rw [mem, List.mem_cons]
      constructor
      · exact fun either => either.imp_right .inr
      · rintro (inside | rfl | later)
        · exact .inl inside
        · exact .inl known
        · exact .inr later
    · rw [addNew, if_neg (mt present.1 known)]
      have more : ∀ id ∈ found ++ [member], id.IsWhole := by
        intro id inside
        rcases List.mem_append.1 inside with old | new
        · exact wholeFound id old
        · rw [List.mem_singleton.1 new]
          exact here
      obtain ⟨nodup, mem⟩ := hypothesis more others (List.nodup_append.2
        ⟨once, List.nodup_singleton _, by
          rintro one inside _ single rfl
          exact known (List.mem_singleton.1 single ▸ inside)⟩)
      refine ⟨nodup, fun id => ?_⟩
      rw [mem, List.mem_append, List.mem_singleton, List.mem_cons, or_assoc]

/-- Adding members leaves those that are there in front. -/
theorem prefix_foldl_addNew (members found : List Value) : found <+: members.foldl addNew found := by
  induction members generalizing found with
  | nil => exact List.prefix_refl _
  | cons member rest hypothesis =>
    refine List.IsPrefix.trans ?_ (hypothesis _)
    unfold addNew
    split
    · exact List.prefix_refl _
    · exact List.prefix_append _ _

/-- Different whole numbers are added one by one. -/
theorem foldl_addNew_of_nodup {members found : List Value}
    (whole : ∀ id ∈ found ++ members, id.IsWhole) (once : (found ++ members).Nodup) :
    members.foldl addNew found = found ++ members := by
  induction members generalizing found with
  | nil => simp
  | cons member rest hypothesis =>
    have new : ¬ has found member = true := by
      rw [has_iff (fun id inside => whole id (List.mem_append_left _ inside)) (whole member (by simp))]
      exact fun inside => (List.nodup_append.1 once).2.2 member inside member List.mem_cons_self rfl
    have cut : found ++ member :: rest = (found ++ [member]) ++ rest := by simp
    rw [List.foldl_cons, addNew, if_neg new, cut]
    rw [cut] at whole once
    exact hypothesis whole once

/-- The preferred order begins with the transactions in the order of their snapshots. -/
theorem snapshots_prefix_preferred {ids : List Value} (whole : ∀ id ∈ ids, id.IsWhole)
    {reference : Trace} (snapshots : ∀ id ∈ reference.snapshotOrder, id ∈ ids)
    (once : reference.snapshotOrder.Nodup) :
    reference.snapshotOrder <+: preferred ids (some reference) := by
  have kept : reference.snapshotOrder.filter (has ids) = reference.snapshotOrder :=
    List.filter_eq_self.2 fun id inside =>
      List.any_eq_true.2 ⟨id, snapshots id inside, Value.alike_refl _⟩
  have first : reference.snapshotOrder.foldl addNew [] = reference.snapshotOrder :=
    foldl_addNew_of_nodup (fun id inside => whole id (snapshots id inside)) once
  show _ <+: firstOccurrences _
  rw [firstOccurrences, List.append_assoc, List.filter_append, List.foldl_append, kept, first]
  exact prefix_foldl_addNew _ _

/-- The preferred order is one of all transactions of the batch. -/
theorem preferred_perm {ids : List Value} (whole : ∀ id ∈ ids, id.IsWhole) (once : ids.Nodup)
    {reference : Trace} (snapshots : ∀ id ∈ reference.snapshotOrder, id ∈ ids)
    (ends : ∀ id ∈ reference.completionOrder, id ∈ ids) :
    (preferred ids (some reference)).Perm ids := by
  have listed : ∀ id ∈ reference.snapshotOrder ++ reference.completionOrder ++ ids, id ∈ ids := by
    intro id inside
    rcases List.mem_append.1 inside with earlier | own
    · exact (List.mem_append.1 earlier).elim (snapshots id) (ends id)
    · exact own
  have all : (reference.snapshotOrder ++ reference.completionOrder ++ ids).filter (has ids) =
      reference.snapshotOrder ++ reference.completionOrder ++ ids := by
    refine List.filter_eq_self.2 fun id inside => ?_
    exact List.any_eq_true.2 ⟨id, listed id inside, Value.alike_refl _⟩
  obtain ⟨nodup, mem⟩ := foldl_addNew (by simp) (fun id inside => whole id (listed id inside))
    List.nodup_nil
  show (firstOccurrences _).Perm ids
  rw [firstOccurrences, all]
  refine (List.perm_ext_iff_of_nodup nodup once).2 fun id => ?_
  rw [mem]
  constructor
  · rintro (none | inside)
    · cases none
    · exact listed id inside
  · exact fun inside => .inr (List.mem_append_right _ inside)

/-- A permutation of the numbers of a batch is an order of its transactions. -/
theorem exists_order {batch : Batch} {ids : List Value} (permuted : ids.Perm batch.ids) :
    ∃ order : Batch, order.Perm batch ∧ ids = order.map (·.id) := by
  have both := congrFun (congrFun (List.eq_map_comp_perm
    fun transaction : OpenTransaction => transaction.id) ids) batch
  obtain ⟨order, same, listed⟩ := both.mpr permuted
  exact ⟨order, listed, same⟩

end SerialCheck.Order

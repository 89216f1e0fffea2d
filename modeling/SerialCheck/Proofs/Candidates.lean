import Mathlib.Data.List.Lex
import SerialCheck.Proofs.Interleaved.Records
import SerialCheck.Proofs.Orders

/-!
# Which orders are tried

The preferred order merges three sources: the snapshots of the reference, its ends and the batch itself,
each transaction at its first occurrence (`preferred_some_eq_merged`). The candidates are the front of the
enumeration of its permutations (`candidates_eq_take`), which is lexicographic by the places in the
preferred order (`enumerates_permutations`).
-/
namespace SerialCheck

namespace Order

/-! ## The preferred order -/

/-- The members of a batch in the order in which they occur in one list, then the remaining ones as they
occur in another one, then the rest as in the batch. Each is taken at its first occurrence. -/
def merged (ids snapshots ends : List Value) : List Value :=
  (snapshots.filter fun id => id ∈ ids).eraseDups ++
    ((ends.filter fun id => id ∈ ids ∧ id ∉ snapshots).eraseDups ++
      (ids.filter fun id => id ∉ snapshots ∧ id ∉ ends).eraseDups)

/-- Whole numbers are put behind a list at their first occurrences, unless they are there. -/
theorem foldl_addNew_eq {found members : List Value} (wholeFound : ∀ id ∈ found, id.IsWhole)
    (whole : ∀ id ∈ members, id.IsWhole) :
    members.foldl addNew found = found ++ (members.filter fun id => id ∉ found).eraseDups := by
  induction members generalizing found with
  | nil => simp
  | cons member rest hypothesis =>
    have here : member.IsWhole := whole member List.mem_cons_self
    have others : ∀ id ∈ rest, id.IsWhole := fun id inside =>
      whole id (List.mem_cons_of_mem _ inside)
    rw [List.foldl_cons, addNew]
    split
    next known =>
      have inside := (has_iff wholeFound here).1 known
      rw [hypothesis wholeFound others, List.filter_cons_of_neg (by simpa using inside)]
    next new =>
      have outside : member ∉ found := mt (has_iff wholeFound here).2 new
      have more : ∀ id ∈ found ++ [member], id.IsWhole := fun id inside =>
        (List.mem_append.1 inside).elim (wholeFound id) fun single =>
          List.mem_singleton.1 single ▸ here
      rw [hypothesis more others, List.filter_cons_of_pos (by simpa using outside),
        List.eraseDups_cons, List.filter_filter, List.append_assoc, List.singleton_append]
      congr 4
      funext id
      rw [Bool.eq_iff_iff]
      simp [and_comm]

/-- The different members of a list of whole numbers are those that stand at first occurrences. -/
theorem firstOccurrences_eq {members : List Value} (whole : ∀ id ∈ members, id.IsWhole) :
    firstOccurrences members = members.eraseDups := by
  have all : (members.filter fun id => id ∉ ([] : List Value)) = members :=
    List.filter_eq_self.2 fun id _ => by simp
  rw [firstOccurrences, foldl_addNew_eq (by simp) whole, all, List.nil_append]

/-- Of appended lists, the first occurrences in the second one are those that the first one does not
have. -/
theorem eraseDups_append_eq (first second : List Value) :
    (first ++ second).eraseDups =
      first.eraseDups ++ (second.filter fun id => id ∉ first).eraseDups := by
  have removed : second.removeAll first = second.filter fun id => id ∉ first := by
    refine List.filter_congr fun id _ => ?_
    rw [Bool.eq_iff_iff]
    simp
  rw [List.eraseDups_append, removed]

/-- The preferred order merges the snapshots and the ends of the reference with the batch. -/
theorem preferred_some_eq_merged {ids : List Value} {reference : Trace}
    (whole : ∀ id ∈ ids, id.IsWhole) (snapshots : ∀ id ∈ reference.snapshotOrder, id.IsWhole)
    (ends : ∀ id ∈ reference.completionOrder, id.IsWhole) :
    preferred ids (some reference) =
      merged ids reference.snapshotOrder reference.completionOrder := by
  have sources : ∀ id ∈ reference.snapshotOrder ++ (reference.completionOrder ++ ids),
      id.IsWhole := by
    simp only [List.mem_append]
    rintro id (taken | ended | own)
    · exact snapshots id taken
    · exact ends id ended
    · exact whole id own
  have kept : ∀ id ∈ reference.snapshotOrder ++ (reference.completionOrder ++ ids),
      has ids id = decide (id ∈ ids) := by
    intro id inside
    rw [Bool.eq_iff_iff, has_iff whole (sources id inside), decide_eq_true_iff]
  have numbers : ∀ id ∈ (reference.snapshotOrder ++ (reference.completionOrder ++ ids)).filter
      fun id => id ∈ ids, id.IsWhole := fun id inside => sources id (List.mem_filter.1 inside).1
  rw [preferred, List.append_assoc, List.filter_congr kept, firstOccurrences_eq numbers,
    List.filter_append, List.filter_append, eraseDups_append_eq, List.filter_append,
    eraseDups_append_eq, merged]
  simp only [List.filter_filter]
  congr 3
  · refine List.filter_congr fun id _ => ?_
    rw [Bool.eq_iff_iff]
    simp only [Bool.and_eq_true, decide_eq_true_eq, List.mem_filter]
    tauto
  · refine List.filter_congr fun id inside => ?_
    rw [Bool.eq_iff_iff]
    simp only [Bool.and_eq_true, decide_eq_true_eq, List.mem_filter]
    tauto

/-- Without a reference the preferred order is that of the batch, which is what merging nothing gives if
no number occurs twice. -/
theorem merged_nil {ids : List Value} (once : ids.Nodup) : merged ids [] [] = ids := by
  have all : ids.eraseDups = ids := by
    induction ids with
    | nil => rfl
    | cons id rest hypothesis =>
      obtain ⟨new, others⟩ := List.nodup_cons.1 once
      have apart : (rest.filter fun other => !other == id) = rest :=
        List.filter_eq_self.2 fun other inside => by
          simpa using fun same : other = id => new (same ▸ inside)
      rw [List.eraseDups_cons, apart, hypothesis others]
  simp [merged, all]

/-! ## The enumeration of permutations -/

variable {α β : Type} {members : List α}

/-- The lists that hold each place below a number once, each of these lists once and in lexicographic
order. -/
structure Enumerates (length : Nat) (all : List (List Nat)) : Prop where
  /-- They are in lexicographic order. -/
  ascending : all.Pairwise (· < ·)
  /-- They are all of these lists. -/
  mem_iff : ∀ places, places ∈ all ↔ places.Perm (List.range length)

/-- The rest stands in the order of the members. -/
theorem sublist_of_mem_picks {member : α} {rest : List α} (picked : (member, rest) ∈ picks members) :
    rest.Sublist members := by
  induction members generalizing member rest with
  | nil => cases picked
  | cons head tail hypothesis =>
    rcases List.mem_cons.1 picked with same | later
    · cases same
      exact List.sublist_cons_self _ _
    · obtain ⟨⟨other, others⟩, inside, same⟩ := List.mem_map.1 later
      cases same
      exact (hypothesis inside).cons_cons head

/-- The members are picked in their order. -/
theorem map_fst_picks (members : List α) : (picks members).map Prod.fst = members := by
  induction members with
  | nil => rfl
  | cons head tail hypothesis =>
    rw [picks, List.map_cons, List.map_map]
    exact congrArg (head :: ·) hypothesis

/-- The permutations of members that are in order are in lexicographic order. -/
theorem pairwise_permutations {below : α → α → Prop} (ordered : members.Pairwise below) :
    (permutations members.length members).Pairwise (List.Lex below) := by
  generalize same : members.length = length
  induction length generalizing members with
  | zero => exact List.pairwise_singleton _ _
  | succ length hypothesis =>
    rw [permutations, List.pairwise_flatMap]
    constructor
    · rintro ⟨member, rest⟩ picked
      have cut : members.length = rest.length + 1 := (perm_of_mem_picks picked).length_eq
      have further := hypothesis (ordered.sublist (sublist_of_mem_picks picked)) (by omega)
      exact List.pairwise_map.2 (further.imp List.Lex.cons)
    · rw [← map_fst_picks members, List.pairwise_map] at ordered
      refine ordered.imp fun before one first other second => ?_
      obtain ⟨_, _, rfl⟩ := List.mem_map.1 first
      obtain ⟨_, _, rfl⟩ := List.mem_map.1 second
      exact .rel before

/-- Places are permuted in lexicographic order. -/
theorem enumerates_permutations (length : Nat) :
    Enumerates length (permutations length (List.range length)) where
  ascending := by
    have ordered : (permutations (List.range length).length (List.range length)).Pairwise
        (List.Lex (· < ·)) := pairwise_permutations List.pairwise_lt_range
    rwa [List.length_range] at ordered
  mem_iff := by
    intro places
    have mem : places ∈ permutations (List.range length).length (List.range length) ↔
        places.Perm (List.range length) := ⟨perm_of_mem_permutations, mem_permutations⟩
    rwa [List.length_range] at mem

/-- Picking does not depend on what is picked. -/
theorem picks_map (change : α → β) (members : List α) :
    picks (members.map change) =
      (picks members).map fun pick => (change pick.1, pick.2.map change) := by
  induction members with
  | nil => rfl
  | cons head tail hypothesis => simp [picks, hypothesis, Function.comp_def]

/-- Nor does permuting. -/
theorem permutations_map (change : α → β) (length : Nat) (members : List α) :
    permutations length (members.map change) =
      (permutations length members).map (List.map change) := by
  induction length generalizing members with
  | zero => rfl
  | succ length hypothesis =>
    simp [permutations, picks_map, List.flatMap_map, List.map_flatMap, hypothesis,
      Function.comp_def]

/-- The first permutation is the list itself. -/
theorem head?_permutations (members : List α) :
    (permutations members.length members).head? = some members := by
  induction members with
  | nil => rfl
  | cons head tail hypothesis =>
    rw [List.length_cons, permutations, picks, List.flatMap_cons, List.head?_append, List.head?_map,
      hypothesis]
    rfl

/-- No permutation of different members is enumerated twice. -/
theorem nodup_permutations (once : members.Nodup) :
    (permutations members.length members).Nodup :=
  (pairwise_permutations once).imp List.Lex.to_ne

/-- The list at the given places. -/
def arranged (order : List Value) (places : List Nat) : List Value :=
  places.map fun place => order.getD place .null

/-- The permutations of an order are those of its places. -/
theorem permutations_eq_map_arranged (order : List Value) :
    permutations order.length order =
      (permutations order.length (List.range order.length)).map (arranged order) := by
  have read : (List.range order.length).map (fun place => order.getD place .null) = order := by
    refine List.ext_getElem (by simp) fun place _ within => ?_
    simp [List.getD_eq_getElem?_getD, List.getElem?_eq_getElem within]
  conv_lhs => rw [← read, permutations_map, List.length_map, List.length_range]
  rfl

/-- The candidates are the first permutations of an order, as many as the limit and at least one. -/
theorem candidates_eq_take {order : List Value} (whole : ∀ id ∈ order, id.IsWhole)
    (once : order.Nodup) (limit : Int) :
    candidates limit order = (permutations order.length order).take (max 1 limit).toNat := by
  obtain ⟨others, all⟩ : ∃ others, permutations order.length order = order :: others :=
    List.head?_eq_some_iff.1 (head?_permutations order)
  have apart : others.filter (fun other => !Value.allAlike other order) = others := by
    have different := (List.nodup_cons.1 (all ▸ nodup_permutations once)).1
    refine List.filter_eq_self.2 fun other inside => ?_
    have permuted : other.Perm order :=
      perm_of_mem_permutations (all ▸ List.mem_cons_of_mem _ inside)
    have numbers : ∀ id ∈ other, id.IsWhole := fun id held => whole id (permuted.subset held)
    have unlike : Value.allAlike other order = false := by
      rw [Bool.eq_false_iff]
      exact fun alike => different ((allAlike_iff numbers whole).1 alike ▸ inside)
    rw [unlike, Bool.not_false]
  have found : further order [] order = others := by
    simp [further, all, Value.allAlike_refl, apart]
  have room : (max 1 limit).toNat = (limit.toNat - 1) + 1 := by omega
  rw [candidates, search_eq, found, all, room, List.take_succ_cons]

/-! ## The preferred order and the candidates -/

/-- An order of the transactions of a batch that puts those first that took a snapshot, in the order of
these, then those that ended, in the order of that, and then the rest as in the batch. -/
structure IsSerialOrder (ids snapshots ends order : List Value) : Prop where
  /-- No transaction is listed twice. -/
  once : order.Nodup
  /-- Exactly those of the batch are listed. -/
  mem_iff : ∀ id, id ∈ order ↔ id ∈ ids
  /-- They are listed as said. -/
  merged : order = merged ids snapshots ends

/-- The orders are the first permutations of an order in the lexicographic enumeration by places, as many
as the limit, at least one, and at most all. -/
structure AreCandidates (limit : Int) (order : List Value) (orders : List (List Value)) : Prop where
  /-- They are the front of the enumeration. -/
  enumerated : ∃ all, Enumerates order.length all ∧
    orders = (all.take (max 1 limit).toNat).map (arranged order)
  /-- There are as many as the limit says and as there are permutations. -/
  size : (orders.length : Int) = min (max 1 limit) order.length.factorial
  /-- The order itself is the first one. -/
  head? : orders.head? = some order
  /-- None of them is listed twice. -/
  once : orders.Nodup
  /-- Each of them is a permutation of the order. -/
  perm : ∀ other ∈ orders, other.Perm order

/-- The candidates for an order of different numbers are the front of the enumeration of its
permutations. -/
theorem areCandidates {order : List Value} (whole : ∀ id ∈ order, id.IsWhole)
    (once : order.Nodup) (limit : Int) : AreCandidates limit order (candidates limit order) where
  enumerated := by
    refine ⟨_, enumerates_permutations order.length, ?_⟩
    rw [candidates_eq_take whole once, permutations_eq_map_arranged, List.map_take]
  size := by
    rw [candidates_eq_take whole once, List.length_take, length_permutations]
    omega
  head? := rfl
  once := by
    rw [candidates_eq_take whole once]
    exact (nodup_permutations once).sublist (List.take_sublist _ _)
  perm := fun _ => perm_of_mem_candidates

/-- The preferred order merges its sources and lists every number of the batch once. -/
theorem isSerialOrder_preferred {ids : List Value} {reference : Option Trace}
    (whole : ∀ id ∈ ids, id.IsWhole)
    (sources : ∀ trace ∈ reference, ∀ id ∈ trace.snapshotOrder ++ trace.completionOrder, id.IsWhole)
    (once : reference = none → ids.Nodup) :
    IsSerialOrder ids (reference.elim [] Trace.snapshotOrder)
      (reference.elim [] Trace.completionOrder) (preferred ids reference) := by
  cases reference with
  | none => exact ⟨once rfl, fun _ => Iff.rfl, (merged_nil (once rfl)).symm⟩
  | some trace =>
    have numbers : ∀ id ∈ trace.snapshotOrder ++ trace.completionOrder ++ ids, id.IsWhole :=
      fun id inside => (List.mem_append.1 inside).elim (sources trace rfl id) (whole id)
    have known : ∀ id ∈ (trace.snapshotOrder ++ trace.completionOrder ++ ids).filter (has ids),
        id.IsWhole := fun id inside => numbers id (List.mem_filter.1 inside).1
    obtain ⟨nodup, mem⟩ := foldl_addNew (by simp) known List.nodup_nil
    refine ⟨nodup, fun id => ?_, ?_⟩
    · show id ∈ List.foldl _ _ _ ↔ _
      rw [mem, List.mem_filter]
      constructor
      · rintro (none | ⟨inside, own⟩)
        · cases none
        · exact (has_iff whole (numbers id inside)).1 own
      · exact fun own =>
          .inr ⟨List.mem_append_right _ own, (has_iff whole (whole id own)).2 own⟩
    · exact preferred_some_eq_merged whole
        (fun id inside => sources trace rfl id (List.mem_append_left _ inside))
        (fun id inside => sources trace rfl id (List.mem_append_right _ inside))

/-- The preferred order lists every transaction of the batch once: first those that took a snapshot in
the reference run, then those that ended in it, then the rest as in the batch. The candidates are the
first of its permutations in lexicographic order of places. The numbers of the batch may be repeated
if there is a reference. -/
theorem preferred_candidates {batch : Batch} {reference : Option Trace}
    (whole : ∀ id ∈ batch.ids, id.IsWhole)
    (sources : ∀ trace ∈ reference, ∀ id ∈ trace.snapshotOrder ++ trace.completionOrder, id.IsWhole)
    (once : reference = none → batch.ids.Nodup) (limit : Int) :
    IsSerialOrder batch.ids (reference.elim [] Trace.snapshotOrder)
        (reference.elim [] Trace.completionOrder) (preferred batch.ids reference) ∧
      AreCandidates limit (preferred batch.ids reference)
        (candidates limit (preferred batch.ids reference)) := by
  have order := isSerialOrder_preferred whole sources once
  exact ⟨order, areCandidates (fun id inside => whole id ((order.mem_iff id).1 inside)) order.once
    limit⟩

end Order

namespace Sample

/-- Three transactions. -/
def three : Batch :=
  [insertAndRead 3 "t0" "t1", insertAndRead 1 "t0" "t1", insertAndRead 2 "t0" "t1"]

/-- A reference that also lists numbers of no transaction, and one twice. -/
def scattered : Trace where
  snapshotOrder := [.integer 9, .integer 2, .integer 2]
  completionOrder := [.integer 2, .integer 1, .integer 7]

/-- Two transactions with one number. -/
def doubled : Batch := [insertAndRead 1 "t0" "t1", insertAndRead 1 "t1" "t0"]

end Sample

namespace Order

/-- Three transactions are ordered by their snapshots and then by their ends, and four candidates are the
first four of six permutations. -/
theorem preferred_candidates_scattered :
    preferred Sample.three.ids (some Sample.scattered) = [.integer 2, .integer 1, .integer 3] ∧
      candidates 4 (preferred Sample.three.ids (some Sample.scattered)) =
        [[.integer 2, .integer 1, .integer 3], [.integer 2, .integer 3, .integer 1],
          [.integer 1, .integer 2, .integer 3], [.integer 1, .integer 3, .integer 2]] ∧
      AreCandidates 4 (preferred Sample.three.ids (some Sample.scattered))
        (candidates 4 (preferred Sample.three.ids (some Sample.scattered))) := by
  have numbers : ∀ numbers : List Int, ∀ id ∈ numbers.map Value.integer, id.IsWhole := by
    intro numbers id inside
    obtain ⟨number, _, rfl⟩ := List.mem_map.1 inside
    exact ⟨number, rfl⟩
  have whole : ∀ id ∈ Sample.three.ids, id.IsWhole := numbers [3, 1, 2]
  have sources : ∀ trace ∈ some Sample.scattered,
      ∀ id ∈ trace.snapshotOrder ++ trace.completionOrder, id.IsWhole := by
    rintro _ ⟨⟩
    exact numbers [9, 2, 2, 2, 1, 7]
  exact ⟨by decide +kernel, by decide +kernel,
    (preferred_candidates whole sources (fun none => by cases none) 4).2⟩

/-- Without a reference the numbers of a batch are listed as they are, also if one of them is repeated.
Its permutations are all alike then, and only one is tried. -/
theorem preferred_repeated :
    preferred Sample.doubled.ids none = [.integer 1, .integer 1] ∧
      ¬(preferred Sample.doubled.ids none).Nodup ∧
      candidates 2 (preferred Sample.doubled.ids none) = [[.integer 1, .integer 1]] := by
  refine ⟨by decide +kernel, by decide +kernel, by decide +kernel⟩

end Order

end SerialCheck

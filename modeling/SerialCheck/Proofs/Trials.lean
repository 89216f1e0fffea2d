import SerialCheck.Proofs.Preserved
import SerialCheck.Proofs.WriteSkew

/-!
# The search through serial orders

An evaluation generates a batch, runs it interleaved and replays it in one candidate order after the other
(`Evaluation`). `Search` says which replays there are: those up to the first consistent one. So the
verdict is consistent exactly if one of them is, and else it is that of the preferred order, and every
candidate has been replayed (`evaluate_search`).
-/
namespace SerialCheck

/-- A replay in the course of a search. -/
structure Trial where
  /-- The order in which the transactions were run. -/
  order : List Value
  /-- The trace of the serial run. -/
  serial : Trace
  /-- What its comparison with the test run came to. -/
  verdict : Verdict

/-- The verdict that follows from the first finding, if there is one. -/
def Verdict.ofFirst (first : Option Finding) : Verdict := first.elim .consistent .inconsistent

namespace Check

/-- The replays of a search and the verdict that they lead to, given the first finding so far. Each of
them is a serial run with the test run for its reference, begun where the one before it has ended. -/
inductive Search (batch : Batch) (test : Trace) :
    Option Finding → List (List Value) → Bench → List Trial → Verdict → Bench → Prop where
  /-- No order is left. -/
  | exhausted (first : Option Finding) (bench : Bench) :
      Search batch test first [] bench [] (.ofFirst first) bench
  /-- A replay is consistent with the test run. -/
  | found {first : Option Finding} {order : List Value} {orders : List (List Value)}
      {bench after : Bench} {serial : Trace}
      (ran : (Run.run batch .serialized (some test) (.array order)).Returns bench serial after)
      (compared : Comparison.compare test serial = .ok .consistent) :
      Search batch test first (order :: orders) bench [⟨order, serial, .consistent⟩] .consistent
        after
  /-- A replay differs from the test run, which is recorded, and the search goes on. -/
  | diverged {first : Option Finding} {order : List Value} {orders : List (List Value)}
      {bench after noted last : Bench} {serial : Trace} {finding : Finding} {trials : List Trial}
      {verdict : Verdict}
      (ran : (Run.run batch .serialized (some test) (.array order)).Returns bench serial after)
      (compared : Comparison.compare test serial = .ok (.inconsistent finding))
      (recorded : (recordDivergence order finding).Returns after () noted)
      (further : Search batch test (first.or (some finding)) orders noted trials verdict last) :
      Search batch test first (order :: orders) bench
        (⟨order, serial, .inconsistent finding⟩ :: trials) verdict last

section
variable {batch : Batch} {test : Trace} {first : Option Finding} {orders : List (List Value)}
  {bench after : Bench} {trials : List Trial} {verdict : Verdict}

/-- The comparison comes to a verdict or to a fault, and leaves the bench. -/
theorem compare_returns_iff {serial : Trace} :
    (compare test serial).Returns bench verdict after ↔
      Comparison.compare test serial = .ok verdict ∧ after = bench := by
  unfold compare
  cases Comparison.compare test serial with
  | ok value => simp [Task.returns_pure, eq_comm]
  | error cause => simp [Task.returns_throw]

/-- The search through the orders returns what its replays lead to. -/
theorem searchOrders_returns :
    (searchOrders batch test first orders).Returns bench verdict after ↔
      ∃ trials, Search batch test first orders bench trials verdict after := by
  induction orders generalizing first bench with
  | nil =>
    constructor
    · intro returned
      obtain ⟨rfl, rfl⟩ := Task.returns_pure.1 returned
      exact ⟨[], .exhausted first after⟩
    · rintro ⟨trials, search⟩
      cases search
      exact Task.returns_pure.2 ⟨rfl, rfl⟩
  | cons order orders hypothesis =>
    simp only [searchOrders, Task.returns_bind, compare_returns_iff]
    constructor
    · rintro ⟨serial, _, ran, judged, _, ⟨compared, rfl⟩, rest⟩
      cases judged with
      | consistent =>
        obtain ⟨rfl, rfl⟩ := Task.returns_pure.1 rest
        exact ⟨_, .found ran compared⟩
      | inconsistent finding =>
        obtain ⟨_, noted, recorded, further⟩ := Task.returns_bind.1 rest
        obtain ⟨trials, search⟩ := hypothesis.1 further
        exact ⟨_, .diverged ran compared recorded search⟩
    · rintro ⟨trials, search⟩
      cases search with
      | found ran compared =>
        exact ⟨_, _, ran, _, _, ⟨compared, rfl⟩, Task.returns_pure.2 ⟨rfl, rfl⟩⟩
      | diverged ran compared recorded further =>
        exact ⟨_, _, ran, _, _, ⟨compared, rfl⟩,
          Task.returns_bind.2 ⟨_, _, recorded, hypothesis.2 ⟨_, further⟩⟩⟩

namespace Search

/-- What a replay came to is its comparison with the test run. -/
theorem compared (search : Search batch test first orders bench trials verdict after) :
    ∀ trial ∈ trials, Comparison.compare test trial.serial = .ok trial.verdict := by
  induction search with
  | exhausted first bench => simp
  | found ran compared => simpa using compared
  | diverged ran compared recorded further hypothesis =>
    exact List.forall_mem_cons.2 ⟨compared, hypothesis⟩

/-- The orders are replayed from the first one on. -/
theorem orders_prefix (search : Search batch test first orders bench trials verdict after) :
    trials.map Trial.order <+: orders := by
  induction search with
  | exhausted first bench => exact List.nil_prefix
  | found ran compared => exact (List.prefix_cons_inj _).2 List.nil_prefix
  | diverged ran compared recorded further hypothesis =>
    exact (List.prefix_cons_inj _).2 hypothesis

/-- The search does not go on behind a consistent replay. -/
theorem early (search : Search batch test first orders bench trials verdict after) :
    ∀ trial ∈ trials.dropLast, trial.verdict ≠ .consistent := by
  induction search with
  | exhausted first bench => simp
  | found ran compared => simp
  | diverged ran compared recorded further hypothesis =>
    rename_i trials _
    cases trials with
    | nil => simp
    | cons trial trials =>
      rw [List.dropLast_cons_of_ne_nil (List.cons_ne_nil _ _)]
      exact List.forall_mem_cons.2 ⟨nofun, hypothesis⟩

/-- Unless one of the replays is consistent, all orders are replayed and the verdict is the first
finding. -/
theorem outcome (search : Search batch test first orders bench trials verdict after) :
    (verdict = .consistent ∧ ∃ trial ∈ trials, trial.verdict = .consistent) ∨
      (trials.map Trial.order = orders ∧ (∀ trial ∈ trials, trial.verdict ≠ .consistent) ∧
        verdict = first.elim ((trials.head?.map Trial.verdict).getD .consistent) .inconsistent) := by
  induction search with
  | exhausted first bench => exact .inr ⟨rfl, by simp, rfl⟩
  | found ran compared => exact .inl ⟨rfl, _, List.mem_singleton.2 rfl, rfl⟩
  | diverged ran compared recorded further hypothesis =>
    rename_i first _ _ _ _ _ _ _ finding _ _
    rcases hypothesis with ⟨consistent, trial, inside, good⟩ | ⟨all, none, same⟩
    · exact .inl ⟨consistent, trial, List.mem_cons_of_mem _ inside, good⟩
    · refine .inr ⟨congrArg _ all, List.forall_mem_cons.2 ⟨nofun, none⟩, same.trans ?_⟩
      cases first <;> rfl

/-- The verdict is consistent exactly if one of the replays is. -/
theorem consistent_iff (search : Search batch test none orders bench trials verdict after)
    (some : orders ≠ []) :
    verdict = .consistent ↔ ∃ trial ∈ trials, trial.verdict = .consistent := by
  rcases search.outcome with ⟨consistent, trial, inside, good⟩ | ⟨all, none, same⟩
  · exact iff_of_true consistent ⟨trial, inside, good⟩
  · refine iff_of_false ?_ fun ⟨trial, inside, good⟩ => none trial inside good
    cases trials with
    | nil => exact absurd all.symm some
    | cons trial trials =>
      rw [same]
      exact none trial List.mem_cons_self

/-- Without a consistent replay every order is replayed, and the verdict is that of the first one. -/
theorem of_inconsistent (search : Search batch test none orders bench trials verdict after)
    (some : orders ≠ []) (inconsistent : verdict ≠ .consistent) :
    trials.map Trial.order = orders ∧ (∀ trial ∈ trials, trial.verdict ≠ .consistent) ∧
      (trials.head?.map Trial.verdict) = Option.some verdict := by
  rcases search.outcome with ⟨consistent, _⟩ | ⟨all, none, same⟩
  · exact absurd consistent inconsistent
  · refine ⟨all, none, ?_⟩
    cases trials with
    | nil => exact absurd all.symm some
    | cons trial trials => exact congrArg Option.some same.symm

/-- Whatever traces the replays of the further orders would have, the verdict is consistent exactly if
one of all these traces is consistent with the test run. -/
theorem consistent_iff_of_serials
    (search : Search batch test none orders bench trials verdict after) (some : orders ≠ [])
    {serials : List Trace} (each : serials.length = orders.length)
    (begins : trials.map Trial.serial <+: serials) :
    verdict = .consistent ↔
      ∃ serial ∈ serials, Comparison.compare test serial = .ok .consistent := by
  constructor
  · intro consistent
    obtain ⟨trial, inside, good⟩ := (search.consistent_iff some).1 consistent
    exact ⟨trial.serial, begins.subset (List.mem_map_of_mem inside),
      (search.compared trial inside).trans (congrArg _ good)⟩
  · rintro ⟨serial, inside, good⟩
    by_contra inconsistent
    obtain ⟨all, none, _⟩ := search.of_inconsistent some inconsistent
    have same : trials.map Trial.serial = serials := by
      refine begins.eq_of_length ?_
      rw [each, ← all, List.length_map, List.length_map]
    rw [← same] at inside
    obtain ⟨trial, ran, rfl⟩ := List.mem_map.1 inside
    exact none trial ran (Except.ok.inj ((search.compared trial ran).symm.trans good))

end Search

end

/-- An evaluation that has come to a verdict: a batch was generated and run interleaved, the search through
the candidate orders has come to the verdict, and the sessions of the batch were closed. -/
structure Evaluation (bench : Bench) (batch : Batch) (test : Trace) (limit : Int)
    (trials : List Trial) (verdict : Verdict) (after : Bench) : Prop where
  /-- The batch is generated. -/
  generated : batch.Generated
  /-- Its size is the one of the settings. -/
  size : ∃ count, bench.settings.batchSize.count = .ok count ∧ batch.length = count.toNat
  /-- The limit is the one of the settings. -/
  limited : Order.limitOf bench.settings.maxOrders batch.length = .ok limit
  /-- The steps. -/
  steps : ∃ made between searched closed, (generateEach batch.length []).Returns bench
      (.ok batch, batch) made ∧
    (Run.run batch .interleaved none .null).Returns (made.noting batch) test between ∧
      Search batch test none (Order.candidates limit (Order.preferred batch.ids (some test)))
        between trials verdict searched ∧
        (closeEach batch).Returns searched () closed ∧
          (recordVerdict batch verdict).Returns closed () after

/-- The preferred order after an interleaved run is one of all transactions. -/
theorem preferred_perm_of_run {batch : Batch} (numbered : batch.Numbered)
    {reference : Option Trace} {order : Value} {bench after : Bench} {test : Trace}
    (returned : (Run.run batch .interleaved reference order).Returns bench test after) :
    (Order.preferred batch.ids (some test)).Perm batch.ids := by
  obtain ⟨last, passes, _, _, _, rfl⟩ := Run.run_interleaved_returns numbered returned
  have known := (Sound.of_reached numbered passes.choose_spec.2).known
  refine Order.preferred_perm (fun id listed => ?_) numbered.distinct known.snapshots known.ends
  obtain ⟨transaction, member, rfl⟩ := List.mem_map.1 listed
  exact numbered.id_isWhole member

/-- An evaluation over the known tables returns a verdict exactly if its steps lead to that. -/
theorem evaluate_returns {bench after : Bench} {verdict : Verdict}
    (grammar : bench.synthesizer = .grammar) :
    evaluate.Returns bench verdict after ↔
      ∃ batch test limit trials, Evaluation bench batch test limit trials verdict after := by
  rw [evaluate, Task.returns_get_bind]
  simp only [Task.returns_bind, Task.returns_use, Task.returns_withCleanup, Task.returns_release,
    Task.returns_pure]
  constructor
  · rintro ⟨count, bench, ⟨counted, rfl⟩, ⟨_, rest⟩, made, drawn, _, closed,
      ⟨searched, ⟨batch, _, ⟨rfl, rfl⟩, checked⟩, closing⟩, _, _, recorded, rfl, rfl⟩
    obtain ⟨rfl, settings, length, good⟩ := generateEach_generated grammar drawn
    obtain ⟨test, between, limit, tested, limited, searching⟩ := checkBatch_returns.1 checked
    obtain ⟨trials, search⟩ := searchOrders_returns.1 searching
    have kept : between.settings = bench.settings :=
      (Run.run_plan good.numbered tested).1.trans settings
    rw [kept, (preferred_perm_of_run good.numbered tested).length_eq, Batch.ids,
      List.length_map] at limited
    exact ⟨_, test, limit, trials, good, ⟨count, counted, length⟩, limited, _, between, _, closed,
      length ▸ drawn, tested, search, closing, recorded⟩
  · rintro ⟨batch, test, limit, trials, good, ⟨count, counted, length⟩, limited, made, between,
      searched, closed, drawn, tested, search, closing, recorded⟩
    obtain ⟨_, settings, _, _⟩ := generateEach_generated grammar drawn
    have kept : between.settings = bench.settings :=
      (Run.run_plan good.numbered tested).1.trans settings
    have checked : (checkBatch batch).Returns made verdict searched := by
      refine checkBatch_returns.2 ⟨test, between, limit, tested, ?_, searchOrders_returns.2 ⟨_, search⟩⟩
      rw [kept, (preferred_perm_of_run good.numbered tested).length_eq, Batch.ids, List.length_map]
      exact limited
    exact ⟨count, bench, ⟨counted, rfl⟩, (.ok batch, batch), made, length ▸ drawn, verdict, closed,
      ⟨searched, ⟨batch, made, ⟨rfl, rfl⟩, checked⟩, closing⟩, (), after, recorded, rfl, rfl⟩

end Check

open Check

/-- An evaluation over the known tables searches through the candidate orders: it returns what its
replays lead to. These are serial runs with the test run for their reference, in the candidate orders up to the
first consistent one; the verdict is consistent exactly if one of them is, and would be no other with
those that were left out. Without a consistent one the verdict is that of the preferred order, and if
the limit admits all permutations, every one of them was replayed and differs. -/
theorem evaluate_search {bench after : Bench} {verdict : Verdict}
    (grammar : bench.synthesizer = .grammar) :
    (Check.evaluate.Returns bench verdict after ↔
        ∃ batch test limit trials, Evaluation bench batch test limit trials verdict after) ∧
      ∀ batch test limit trials, Evaluation bench batch test limit trials verdict after →
        let orders := Order.candidates limit (Order.preferred batch.ids (some test))
        (trials.map Trial.order <+: orders ∧
          (∀ trial ∈ trials, Comparison.compare test trial.serial = .ok trial.verdict) ∧
            ∀ trial ∈ trials.dropLast, trial.verdict ≠ .consistent) ∧
          (verdict = .consistent ↔ ∃ trial ∈ trials, trial.verdict = .consistent) ∧
          (∀ serials : List Trace, serials.length = orders.length →
            trials.map Trial.serial <+: serials → (verdict = .consistent ↔
              ∃ serial ∈ serials, Comparison.compare test serial = .ok .consistent)) ∧
          (verdict ≠ .consistent → trials.map Trial.order = orders ∧
            ∃ trial others, trials = trial :: others ∧ trial.verdict = verdict ∧
              trial.order = Order.preferred batch.ids (some test)) ∧
          ((batch.length.factorial : Int) ≤ limit → verdict ≠ .consistent →
            ∀ order : List Value, order.Perm batch.ids →
              ∃ trial ∈ trials, trial.order = order ∧ trial.verdict ≠ .consistent) := by
  refine ⟨evaluate_returns grammar, fun batch test limit trials evaluation => ?_⟩
  obtain ⟨_, between, _, _, _, tested, search, _⟩ := evaluation.steps
  have numbered := evaluation.generated.numbered
  have preferred := preferred_perm_of_run numbered tested
  have some : Order.candidates limit (Order.preferred batch.ids (some test)) ≠ [] :=
    List.cons_ne_nil _ _
  refine ⟨⟨search.orders_prefix, search.compared, search.early⟩, search.consistent_iff some,
    fun serials each begins => search.consistent_iff_of_serials some each begins, fun differs => ?_,
    fun room differs order permuted => ?_⟩
  · obtain ⟨all, _, head⟩ := search.of_inconsistent some differs
    refine ⟨all, ?_⟩
    cases trials with
    | nil => cases head
    | cons trial others =>
      exact ⟨trial, others, rfl, Option.some.inj head, (List.cons.inj all).1⟩
  · obtain ⟨all, none, _⟩ := search.of_inconsistent some differs
    have whole : ∀ id ∈ Order.preferred batch.ids (Option.some test), id.IsWhole := by
      intro id inside
      obtain ⟨transaction, member, rfl⟩ := List.mem_map.1 (preferred.subset inside)
      exact numbered.id_isWhole member
    have listed : order ∈ Order.candidates limit (Order.preferred batch.ids (Option.some test)) := by
      refine Order.mem_candidates whole (permuted.trans preferred.symm) ?_
      rw [preferred.length_eq, Batch.ids, List.length_map]
      exact room
    rw [← all] at listed
    obtain ⟨trial, ran, rfl⟩ := List.mem_map.1 listed
    exact ⟨trial, ran, rfl, none trial ran⟩

namespace Sample

/-- A bench on which two transactions that each read what the other one writes are generated and run in
turns. -/
def skewedEvaluation : Bench :=
  { scheduled [] [1, 2, 1, 2, 1, 2] with
    settings := { (generator skewed).settings with batchSize := .integer 2 }
    randomness := (generator skewed).randomness
    schema := (generator skewed).schema
    server := {} }

/-- The evaluation there is inconsistent. -/
theorem skewedEvaluation_inconsistent :
    (Check.evaluate skewedEvaluation).1.toOption.map Verdict.isConsistent = some false := by
  decide +kernel

end Sample

/-- Both orders of two transactions that each read what the other one writes are replayed, and differ. -/
theorem evaluate_search_skewed :
    ∃ batch test trials finding after, Evaluation Sample.skewedEvaluation batch test 24 trials
        (.inconsistent finding) after ∧ batch.length = 2 ∧
      ∀ order : List Value, order.Perm batch.ids →
        ∃ trial ∈ trials, trial.order = order ∧ trial.verdict ≠ .consistent := by
  obtain ⟨verdict, after, returned, seen⟩ :=
    Task.returns_of_map Sample.skewedEvaluation_inconsistent
  obtain ⟨steps, told⟩ : (Check.evaluate.Returns Sample.skewedEvaluation verdict after ↔ _) ∧ _ :=
    evaluate_search (show Sample.skewedEvaluation.synthesizer = .grammar from rfl)
  obtain ⟨batch, test, limit, trials, evaluation⟩ := steps.1 returned
  cases verdict with
  | consistent => cases seen
  | inconsistent finding =>
    obtain ⟨count, counted, length⟩ := evaluation.size
    have two : batch.length = 2 := by
      rw [length, ← Except.ok.inj (show Except.ok 2 = Except.ok count from counted)]
      rfl
    have limited := evaluation.limited
    have most : limit = 24 := (Except.ok.inj (show Except.ok 24 = Except.ok limit from limited)).symm
    subst most
    refine ⟨batch, test, trials, finding, after, evaluation, two, ?_⟩
    exact (told batch test 24 trials evaluation).2.2.2.2 (by rw [two]; decide) nofun

end SerialCheck

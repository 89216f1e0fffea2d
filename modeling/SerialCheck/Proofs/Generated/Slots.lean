import SerialCheck.Proofs.Fails
import SerialCheck.Proofs.Sessions.Drafts

/-!
# The slots of a transaction

A slot is the place of one data statement. It is filled by attempts: each draws a kind anew and asks the
synthesizer once (`Asks`), those that are abandoned are followed by another one (`Abandons`), and the kind
and the query are those of the attempt that succeeded (`Fills`). Where data statements are drawn over a
readable schema, these relations say exactly when data statements are returned and when they are given up
(`dataStatements_returns`, `dataStatements_fails`).
-/
namespace SerialCheck

open SerialCheck.Task

namespace Bench

/-- What statements are drawn from is as it was; at most the randomness has moved on. -/
structure Redrawn (bench after : Bench) : Prop where
  /-- The settings are as they were. -/
  settings : after.settings = bench.settings
  /-- So are the known tables. -/
  schema : after.schema = bench.schema
  /-- So is the way in which statements come about. -/
  synthesizer : after.synthesizer = bench.synthesizer
  /-- Neither the server nor the sessions were touched. -/
  beside : bench.Beside after

theorem Redrawn.refl (bench : Bench) : bench.Redrawn bench := ⟨rfl, rfl, rfl, .refl bench⟩

theorem Redrawn.trans {bench between after : Bench} (first : bench.Redrawn between)
    (second : between.Redrawn after) : bench.Redrawn after where
  settings := second.settings.trans first.settings
  schema := second.schema.trans first.schema
  synthesizer := second.synthesizer.trans first.synthesizer
  beside := first.beside.trans second.beside

theorem Redrawn.of_randomness (bench : Bench) (randomness : Randomness) :
    bench.Redrawn { bench with randomness } := ⟨rfl, rfl, rfl, rfl, rfl, rfl, rfl, rfl⟩

/-- Data statements are drawn at random over readable tables, and some kind of them is enabled. -/
structure Willing (bench : Bench) : Prop where
  /-- They are drawn at random. -/
  grammar : bench.synthesizer = .grammar
  /-- The settings and the known tables are of the kinds that are made for it. -/
  can : bench.CanDraft
  /-- Some kind is enabled. -/
  enabled : bench.settings.enabled ≠ []

theorem Willing.redrawn {bench after : Bench} (willing : bench.Willing)
    (redrawn : bench.Redrawn after) : after.Willing where
  grammar := redrawn.synthesizer.trans willing.grammar
  can := willing.can.of_same redrawn.settings redrawn.schema (redrawn.synthesizer ▸ willing.can.counts)
  enabled := redrawn.settings ▸ willing.enabled

end Bench

namespace Generation

variable {bench between after : Bench} {kind : DataKind} {query : Query} {fault : Fault}

/-- A choice moves at most the randomness on. -/
theorem redrawn_attempt {α : Type} {choice : Attempt α} {outcome : Except Fault α}
    (ended : attempt choice bench = (outcome, after)) : bench.Redrawn after := by
  rw [attempt_apply] at ended
  generalize choice.run bench.randomness = drawn at ended
  obtain ⟨drawn, randomness⟩ := drawn
  cases drawn <;>
  · cases ended
    exact .of_randomness bench randomness

/-- A task that is caught ends in no fault. -/
theorem fails_caught {α : Type} {task : Task α} : (caught task).Fails bench fault after ↔ False := by
  rw [Fails, caught_apply]
  constructor
  · intro failed
    cases congrArg Prod.fst failed
  · exact False.elim

/-- A choice that ends in a fault has failed. -/
theorem attempt_fails {α : Type} {choice : Attempt α} (failed : (attempt choice).Fails bench fault after) :
    ∃ cause, (choice.run bench.randomness).1 = .error cause ∧ fault = .ofGeneration cause := by
  rw [Fails, attempt_apply] at failed
  generalize choice.run bench.randomness = drawn at failed
  obtain ⟨drawn, randomness⟩ := drawn
  cases drawn with
  | ok value => cases failed
  | error cause =>
    cases failed
    exact ⟨cause, rfl, rfl⟩

/-- A draw that is attempted does not fail. -/
theorem not_fails_draw {α : Type} {choice : Draw α} :
    ¬ (attempt (liftM choice : Attempt α)).Fails bench fault after := by
  intro failed
  obtain ⟨cause, drawn, _⟩ := attempt_fails failed
  cases drawn

/-- A choice that returns gives what it is made to give. -/
theorem attempt_gives {α : Type} {choice : Attempt α} {good : α → Prop} {value : α}
    (gives : choice.Gives good) (returned : (attempt choice).Returns bench value after) : good value := by
  apply gives bench.randomness
  rw [Returns, attempt_apply] at returned
  generalize choice.run bench.randomness = drawn at returned
  obtain ⟨drawn, randomness⟩ := drawn
  cases drawn with
  | ok value => cases returned; rfl
  | error cause => cases returned

/-- A statement that is drawn at random is a choice over the known tables. -/
theorem statement_grammar (grammar : bench.synthesizer = .grammar) (kind : StatementKind) :
    Synthesizer.statement kind bench =
      attempt (drawStatement bench.schema bench.settings.isolationLevel kind) bench := by
  have read : (get : Task Bench) bench = (.ok bench, bench) := rfl
  rw [Synthesizer.statement, Task.bind_apply, read]
  simp only [grammar]

/-! ## Attempts -/

/-- In one attempt the kind is drawn among those that are enabled, and the synthesizer is asked once for a
statement of it. -/
def Asks (kind : DataKind) (outcome : Except Fault Query) (bench after : Bench) : Prop :=
  ∃ drawn, (attempt (Attempt.member (dataKinds bench.settings.enabled))).Returns bench kind drawn ∧
    Synthesizer.statement kind.val drawn = (outcome, after)

/-- The kind of an attempt is enabled. -/
theorem Asks.enabled {outcome : Except Fault Query} (asks : Asks kind outcome bench after) :
    kind.val ∈ bench.settings.enabled := by
  obtain ⟨drawn, chosen, _⟩ := asks
  have listed : kind ∈ dataKinds bench.settings.enabled :=
    attempt_gives (Attempt.gives_member _) chosen
  obtain ⟨other, inside, same⟩ := List.mem_filterMap.1 listed
  split at same
  · cases same
    exact inside
  · cases same

/-- An attempt to draw a statement moves at most the randomness on. -/
theorem Asks.redrawn (grammar : bench.synthesizer = .grammar) {outcome : Except Fault Query}
    (asks : Asks kind outcome bench after) : bench.Redrawn after := by
  obtain ⟨drawn, chosen, asked⟩ := asks
  have first : bench.Redrawn drawn := redrawn_attempt chosen
  rw [statement_grammar (first.synthesizer.trans grammar)] at asked
  exact first.trans (redrawn_attempt asked)

/-- An attempt succeeds with what the synthesizer answers. -/
theorem tryData_ok : tryData.Returns bench (kind, .ok query) after ↔ Asks kind (.ok query) bench after := by
  rw [tryData, returns_get_bind]
  simp only [returns_bind, returns_caught]
  constructor
  · rintro ⟨drawn, middle, chosen, outcome, between, asked, rest⟩
    split at rest
    · obtain ⟨same, rfl⟩ := returns_pure.1 rest
      cases same
      exact ⟨middle, chosen, asked⟩
    · cases (returns_pure.1 rest).1
    · exact (returns_throw.1 rest).elim
  · rintro ⟨middle, chosen, asked⟩
    exact ⟨kind, middle, chosen, _, after, asked, returns_pure.2 ⟨rfl, rfl⟩⟩

/-- An attempt is abandoned for the reason for which the synthesizer gives up. -/
theorem tryData_error {cause : GenerationFault} :
    tryData.Returns bench (kind, .error cause) after ↔
      Asks kind (.error (.generation cause)) bench after := by
  rw [tryData, returns_get_bind]
  simp only [returns_bind, returns_caught]
  constructor
  · rintro ⟨drawn, middle, chosen, outcome, between, asked, rest⟩
    split at rest
    · cases (returns_pure.1 rest).1
    · obtain ⟨same, rfl⟩ := returns_pure.1 rest
      cases same
      exact ⟨middle, chosen, asked⟩
    · exact (returns_throw.1 rest).elim
  · rintro ⟨middle, chosen, asked⟩
    exact ⟨kind, middle, chosen, _, after, asked, returns_pure.2 ⟨rfl, rfl⟩⟩

/-- A fault of a draft over readable tables is one of generation. -/
theorem generation_of_statement (willing : bench.Willing) {kind : StatementKind}
    (failed : (Synthesizer.statement kind).Fails bench fault after) :
    ∃ cause, fault = .generation cause := by
  obtain ⟨level, named⟩ := willing.can.level
  rw [Fails, statement_grammar willing.grammar, named] at failed
  obtain ⟨cause, drawn, rfl⟩ := attempt_fails failed
  have clean := proper_drawStatement willing.can.readable level kind bench.randomness cause drawn
  cases cause with
  | misuse misuse => exact absurd rfl (clean misuse)
  | _ => exact ⟨_, rfl⟩

/-- Some data kind is among the enabled ones. -/
theorem dataKinds_ne_nil (willing : bench.Willing) : dataKinds bench.settings.enabled ≠ [] := by
  obtain ⟨kind, inside⟩ := List.exists_mem_of_ne_nil _ willing.enabled
  have data : kind.isControl = false := by
    have each : ∀ kind ∈ StatementKind.data, kind.isControl = false := by decide
    exact each kind (List.mem_of_mem_filter inside)
  have member : (⟨kind, data⟩ : DataKind) ∈ dataKinds bench.settings.enabled :=
    List.mem_filterMap.2 ⟨kind, inside, dif_pos data⟩
  exact List.ne_nil_of_mem member

/-- So an attempt succeeds or is abandoned. -/
theorem tryData_not_fails (willing : bench.Willing) : ¬ tryData.Fails bench fault after := by
  intro failed
  rw [tryData, fails_get_bind] at failed
  simp only [fails_bind, returns_caught] at failed
  rcases failed with failed | ⟨kind, drawn, chosen, failed | ⟨outcome, between, asked, failed⟩⟩
  · obtain ⟨first, others, listed⟩ := List.exists_cons_of_ne_nil (dataKinds_ne_nil willing)
    rw [listed] at failed
    exact not_fails_draw failed
  · exact fails_caught.1 failed
  · split at failed
    · exact fails_pure.1 failed
    · exact fails_pure.1 failed
    next other stays =>
      have moved := willing.redrawn (redrawn_attempt chosen)
      obtain ⟨cause, rfl⟩ := generation_of_statement moved asked
      exact stays cause rfl

/-! ## Slots -/

/-- One attempt after the other is abandoned, for the given causes in this order. -/
inductive Abandons : List GenerationFault → Bench → Bench → Prop
  /-- No attempt is made. -/
  | none (bench : Bench) : Abandons [] bench bench
  /-- An attempt is abandoned, and then further ones. -/
  | more {kind : DataKind} {cause : GenerationFault} {causes : List GenerationFault}
    {bench between after : Bench} (asks : Asks kind (.error (.generation cause)) bench between)
    (further : Abandons causes between after) : Abandons (cause :: causes) bench after

theorem Abandons.redrawn {causes : List GenerationFault} (grammar : bench.synthesizer = .grammar)
    (abandons : Abandons causes bench after) : bench.Redrawn after := by
  induction abandons with
  | none bench => exact .refl bench
  | more asks _ hypothesis =>
    have first := asks.redrawn grammar
    exact first.trans (hypothesis (first.synthesizer.trans grammar))

/-- What came of the slot of a data statement. -/
structure Slot where
  /-- Why attempts were abandoned before one succeeded. -/
  causes : List GenerationFault
  /-- The kind that was drawn when it succeeded. -/
  kind : DataKind
  /-- The query that the synthesizer answered then. -/
  query : Query

namespace Slot

/-- How often the synthesizer was asked. -/
def calls (slot : Slot) : Nat := slot.causes.length + 1

/-- The data statement of a transaction that stands in the slot. -/
def item (id : Int) (index : Nat) (slot : Slot) : DataItem :=
  ⟨⟨.integer id, .integer index, slot.kind.val, slot.query.text,
    slot.query.expected.withPatterns conflictErrors, []⟩, slot.kind.property⟩

/-- The attempts that fill the slot: some are abandoned, and the next one succeeds. -/
def Filled (slot : Slot) (bench after : Bench) : Prop :=
  ∃ middle, Abandons slot.causes bench middle ∧ Asks slot.kind (.ok slot.query) middle after

variable {slot : Slot}

theorem Filled.redrawn (grammar : bench.synthesizer = .grammar) (filled : slot.Filled bench after) :
    bench.Redrawn after := by
  obtain ⟨middle, abandons, asks⟩ := filled
  have first := abandons.redrawn grammar
  exact first.trans (asks.redrawn (first.synthesizer.trans grammar))

/-- The kind of a filled slot is enabled. -/
theorem Filled.enabled (grammar : bench.synthesizer = .grammar) (filled : slot.Filled bench after) :
    slot.kind.val ∈ bench.settings.enabled := by
  obtain ⟨middle, abandons, asks⟩ := filled
  have same := (abandons.redrawn grammar).settings
  exact same ▸ asks.enabled

/-- The query of a filled slot is drawn as a statement of its kind. -/
theorem Filled.gives {good : StatementKind → Query → Prop} (grammar : bench.synthesizer = .grammar)
    (drawn : ∀ schema level kind, (drawStatement schema level kind).Gives (good kind))
    (filled : slot.Filled bench after) : good slot.kind.val slot.query := by
  obtain ⟨middle, abandons, chosen, drew, asked⟩ := filled
  have moved := (abandons.redrawn grammar).trans (redrawn_attempt drew)
  rw [statement_grammar (moved.synthesizer.trans grammar)] at asked
  exact attempt_gives (drawn _ _ _) asked

/-- The number of further attempts bounds the number of calls. -/
theorem calls_le {limit : Nat} (allowed : 1 ≤ limit) (slot : Slot) :
    slot.causes.length ≤ (limit : Int).toNat - 1 ↔ slot.calls ≤ limit := by
  rw [Int.toNat_natCast, calls]
  omega

end Slot

/-- A data statement is returned if its slot is filled after at most as many abandoned attempts as may be
followed by another. -/
theorem dataStatement_returns {attempts : Value} {further : Nat} :
    (dataStatement attempts further).Returns bench (kind, query) after ↔
      ∃ causes, causes.length ≤ further ∧ (Slot.mk causes kind query).Filled bench after := by
  induction further generalizing bench with
  | zero =>
    simp only [dataStatement, returns_bind]
    constructor
    · rintro ⟨⟨drawn, outcome⟩, between, tried, rest⟩
      cases outcome with
      | error cause => exact (returns_throw.1 rest).elim
      | ok made =>
        obtain ⟨same, rfl⟩ := returns_pure.1 rest
        cases same
        exact ⟨[], le_refl _, bench, .none bench, tryData_ok.1 tried⟩
    · rintro ⟨causes, few, middle, abandoned, asked⟩
      cases abandoned with
      | none => exact ⟨(kind, .ok query), after, tryData_ok.2 asked, returns_pure.2 ⟨rfl, rfl⟩⟩
      | more => simp at few
  | succ further hypothesis =>
    simp only [dataStatement, returns_bind]
    constructor
    · rintro ⟨⟨drawn, outcome⟩, between, tried, rest⟩
      cases outcome with
      | error cause =>
        obtain ⟨causes, few, middle, abandoned, asked⟩ := hypothesis.1 rest
        exact ⟨cause :: causes, Nat.succ_le_succ few, middle, .more (tryData_error.1 tried) abandoned,
          asked⟩
      | ok made =>
        obtain ⟨same, rfl⟩ := returns_pure.1 rest
        cases same
        exact ⟨[], Nat.zero_le _, bench, .none bench, tryData_ok.1 tried⟩
    · rintro ⟨causes, few, middle, abandoned, asked⟩
      cases abandoned with
      | none => exact ⟨(kind, .ok query), after, tryData_ok.2 asked, returns_pure.2 ⟨rfl, rfl⟩⟩
      | more first others =>
        refine ⟨_, _, tryData_error.2 first, hypothesis.2 ⟨_, ?_, middle, others, asked⟩⟩
        exact Nat.le_of_succ_le_succ few

/-- A data statement is given up if one attempt more is abandoned than may be followed by another. -/
theorem dataStatement_fails {attempts : Value} {further : Nat} (willing : bench.Willing) :
    (dataStatement attempts further).Fails bench fault after ↔
      ∃ causes last, causes.length = further ∧ Abandons (causes ++ [last]) bench after ∧
        fault = .generation (.exhausted attempts last) := by
  induction further generalizing bench with
  | zero =>
    simp only [dataStatement, fails_bind, tryData_not_fails willing, false_or]
    constructor
    · rintro ⟨⟨drawn, outcome⟩, between, tried, rest⟩
      cases outcome with
      | ok made => exact (fails_pure.1 rest).elim
      | error cause =>
        obtain ⟨rfl, rfl⟩ := fails_throw.1 rest
        exact ⟨[], cause, rfl, .more (tryData_error.1 tried) (.none _), rfl⟩
    · rintro ⟨causes, last, none, abandoned, rfl⟩
      obtain rfl := List.length_eq_zero_iff.1 none
      cases abandoned with
      | more first others =>
        cases others with
        | none => exact ⟨_, _, tryData_error.2 first, fails_throw.2 ⟨rfl, rfl⟩⟩
  | succ further hypothesis =>
    simp only [dataStatement, fails_bind, tryData_not_fails willing, false_or]
    constructor
    · rintro ⟨⟨drawn, outcome⟩, between, tried, rest⟩
      cases outcome with
      | ok made => exact (fails_pure.1 rest).elim
      | error cause =>
        have asked := tryData_error.1 tried
        have moved := willing.redrawn (asked.redrawn willing.grammar)
        obtain ⟨causes, last, many, abandoned, rfl⟩ := (hypothesis moved).1 rest
        exact ⟨cause :: causes, last, congrArg Nat.succ many, .more asked abandoned, rfl⟩
    · rintro ⟨causes, last, many, abandoned, rfl⟩
      cases causes with
      | nil => simp at many
      | cons cause causes =>
        cases abandoned with
        | more first others =>
          have moved := willing.redrawn (first.redrawn willing.grammar)
          refine ⟨_, _, tryData_error.2 first, (hypothesis moved).2 ⟨causes, last, ?_, others, rfl⟩⟩
          exact Nat.succ.inj many

/-- The slots are filled one after the other. -/
inductive Fills : List Slot → Bench → Bench → Prop
  /-- There is none. -/
  | none (bench : Bench) : Fills [] bench bench
  /-- One slot is filled, and then the further ones. -/
  | more {slot : Slot} {slots : List Slot} {bench between after : Bench}
    (filled : slot.Filled bench between) (further : Fills slots between after) :
    Fills (slot :: slots) bench after

variable {slots : List Slot}

theorem Fills.redrawn (grammar : bench.synthesizer = .grammar) (fills : Fills slots bench after) :
    bench.Redrawn after := by
  induction fills with
  | none bench => exact .refl bench
  | more filled _ hypothesis =>
    have first := filled.redrawn grammar
    exact first.trans (hypothesis (first.synthesizer.trans grammar))

/-- The kinds of filled slots are enabled. -/
theorem Fills.enabled (grammar : bench.synthesizer = .grammar) (fills : Fills slots bench after) :
    ∀ slot ∈ slots, slot.kind.val ∈ bench.settings.enabled := by
  induction fills with
  | none => simp
  | more filled _ hypothesis =>
    have first := filled.redrawn grammar
    have rest := hypothesis (first.synthesizer.trans grammar)
    rw [first.settings] at rest
    exact List.forall_mem_cons.2 ⟨filled.enabled grammar, rest⟩

/-- The queries of filled slots are drawn as statements of their kinds. -/
theorem Fills.gives {good : StatementKind → Query → Prop} (grammar : bench.synthesizer = .grammar)
    (drawn : ∀ schema level kind, (drawStatement schema level kind).Gives (good kind))
    (fills : Fills slots bench after) : ∀ slot ∈ slots, good slot.kind.val slot.query := by
  induction fills with
  | none => simp
  | more filled _ hypothesis =>
    have rest := hypothesis ((filled.redrawn grammar).synthesizer.trans grammar)
    exact List.forall_mem_cons.2 ⟨filled.gives grammar drawn, rest⟩

section

variable {id : Int} {limit count index : Nat} (willing : bench.Willing) (allowed : 1 ≤ limit)
  (given : bench.settings.generationAttempts = .integer limit)

include willing allowed given

/-- Data statements are returned as they stand in their slots, each of which was filled in as many attempts
as are allowed. -/
theorem dataStatements_returns {items : List DataItem} :
    (dataStatements id count index).Returns bench items after ↔
      ∃ slots, slots.length = count ∧ (∀ slot ∈ slots, slot.calls ≤ limit) ∧ Fills slots bench after ∧
        items = slots.mapIdx fun place slot => slot.item id (index + place) := by
  induction count generalizing bench index items with
  | zero =>
    rw [dataStatements, returns_pure]
    constructor
    · rintro ⟨rfl, rfl⟩
      exact ⟨[], rfl, by simp, .none _, rfl⟩
    · rintro ⟨slots, none, _, fills, rfl⟩
      obtain rfl := List.length_eq_zero_iff.1 none
      cases fills
      exact ⟨rfl, rfl⟩
  | succ count hypothesis =>
    have counted : bench.settings.generationAttempts.count = .ok (limit : Int) := by rw [given]; rfl
    rw [dataStatements, returns_get_bind]
    simp only [returns_bind, returns_use, counted, returns_pure]
    have rest {slot : Slot} {between : Bench} (filled : slot.Filled bench between) :=
      have moved := filled.redrawn willing.grammar
      @hypothesis between (index + 1) (willing.redrawn moved) (moved.settings ▸ given)
    constructor
    · rintro ⟨_, _, ⟨same, rfl⟩, ⟨kind, query⟩, between, made, others, last, returned, rfl, rfl⟩
      cases same
      obtain ⟨causes, within, filled⟩ := dataStatement_returns.1 made
      obtain ⟨slots, long, calls, fills, rfl⟩ := (rest filled).1 returned
      refine ⟨⟨causes, kind, query⟩ :: slots, congrArg Nat.succ long,
        List.forall_mem_cons.2 ⟨(Slot.calls_le allowed _).1 within, calls⟩, .more filled fills, ?_⟩
      simp [List.mapIdx_cons, Slot.item, Nat.add_assoc, Nat.add_comm 1]
    · rintro ⟨slots, long, calls, fills, rfl⟩
      cases fills with
      | none => simp at long
      | @more slot slots _ between _ filled fills =>
        obtain ⟨mine, others⟩ := List.forall_mem_cons.1 calls
        refine ⟨_, _, ⟨rfl, rfl⟩, (slot.kind, slot.query), between,
          dataStatement_returns.2 ⟨slot.causes, (Slot.calls_le allowed slot).2 mine, filled⟩, _, after,
          (rest filled).2 ⟨slots, Nat.succ.inj long, others, fills, rfl⟩, ?_, rfl⟩
        simp [List.mapIdx_cons, Slot.item, Nat.add_assoc, Nat.add_comm 1]

/-- They are given up if in one slot, behind filled ones, as many attempts are abandoned as are allowed. -/
theorem dataStatements_fails :
    (dataStatements id count index).Fails bench fault after ↔
      ∃ slots middle causes last, slots.length < count ∧ (∀ slot ∈ slots, slot.calls ≤ limit) ∧
        Fills slots bench middle ∧ (causes ++ [last]).length = limit ∧
          Abandons (causes ++ [last]) middle after ∧
            fault = .generation (.exhausted (.integer limit) last) := by
  induction count generalizing bench index with
  | zero =>
    rw [dataStatements, fails_pure]
    simp
  | succ count hypothesis =>
    have counted : bench.settings.generationAttempts.count = .ok (limit : Int) := by rw [given]; rfl
    rw [dataStatements, fails_get_bind]
    simp only [fails_bind, returns_use, counted, fails_pure, and_false, exists_false, or_false]
    have whole (causes : List GenerationFault) (last : GenerationFault) :
        causes.length = (limit : Int).toNat - 1 ↔ (causes ++ [last]).length = limit := by
      rw [Int.toNat_natCast, List.length_append, List.length_singleton]
      omega
    have rest {slot : Slot} {between : Bench} (filled : slot.Filled bench between) :=
      have moved := filled.redrawn willing.grammar
      @hypothesis between (index + 1) (willing.redrawn moved) (moved.settings ▸ given)
    constructor
    · rintro (failed | ⟨_, _, ⟨same, rfl⟩, failed | ⟨⟨kind, query⟩, between, made, failed⟩⟩)
      · cases failed
      · cases same
        obtain ⟨causes, last, many, abandoned, rfl⟩ := (dataStatement_fails willing).1 failed
        exact ⟨[], _, causes, last, Nat.succ_pos _, by simp, .none _, (whole causes last).1 many, abandoned,
          by rw [given]⟩
      · cases same
        obtain ⟨causes, within, filled⟩ := dataStatement_returns.1 made
        obtain ⟨slots, reached, others, last, short, calls, fills, gave_up⟩ := (rest filled).1 failed
        exact ⟨⟨causes, kind, query⟩ :: slots, reached, others, last, Nat.succ_lt_succ short,
          List.forall_mem_cons.2 ⟨(Slot.calls_le allowed _).1 within, calls⟩, .more filled fills, gave_up⟩
    · rintro ⟨slots, reached, others, last, short, calls, fills, many, gave_up, rfl⟩
      refine .inr ⟨_, _, ⟨rfl, rfl⟩, ?_⟩
      cases fills with
      | none =>
        rw [given]
        exact .inl ((dataStatement_fails willing).2
          ⟨others, last, (whole others last).2 many, gave_up, rfl⟩)
      | @more slot slots _ between _ filled fills =>
        obtain ⟨mine, earlier⟩ := List.forall_mem_cons.1 calls
        refine .inr ⟨(slot.kind, slot.query), between,
          dataStatement_returns.2 ⟨slot.causes, (Slot.calls_le allowed slot).2 mine, filled⟩, ?_⟩
        exact (rest filled).2 ⟨slots, reached, others, last, Nat.lt_of_succ_lt_succ short, earlier, fills,
          many, gave_up, rfl⟩

end

end Generation

end SerialCheck

import Mathlib.Tactic.Linarith
import SerialCheck.Proofs.Engine.Ended
import SerialCheck.Proofs.Interleaved.Clock
import SerialCheck.Proofs.Interleaved.Records
import SerialCheck.Proofs.Setup.Rules

/-!
# Exact clocks

A clock is exact if every time that a run asks for is the exact sum of the present time and a delay or a
timeout (`Run.ExactClock`). Such a clock never goes back (`Step.forward`), and a statement that was
late was sent at least the block timeout ago (`Goes.sent_before`). A clock that counts whole seconds is
exact (`ExactClock.of_whole`).
-/
namespace SerialCheck

namespace Number

/-- The number is a whole one. -/
def IsWhole (number : Number) : Prop := ∃ seconds : Int, number = .whole seconds

/-- The exact value of a number, zero if it has none. -/
def seconds (number : Number) : ℚ :=
  match number.quantity? with
  | some (.finite value) => value
  | _ => 0

/-- The number has an exact value. -/
def IsExact (number : Number) : Prop := number.quantity? = some (.finite number.seconds)

variable {left right number : Number}

/-- A number with an exact value has that one. -/
theorem isExact_of_quantity {value : ℚ} (exact : number.quantity? = some (.finite value)) :
    number.IsExact ∧ number.seconds = value := by
  have same : number.seconds = value := by rw [seconds, exact]
  exact ⟨by rw [IsExact, same, exact], same⟩

/-- Exact numbers are compared by their values. -/
theorem IsExact.le_iff (first : left.IsExact) (second : right.IsExact) :
    left.le right = true ↔ left.seconds ≤ right.seconds := by
  unfold IsExact at first second
  simp [Number.le, first, second, Quantity.le]

/-- So is the strict order. -/
theorem IsExact.lt_iff (first : left.IsExact) (second : right.IsExact) :
    left.lt right = true ↔ left.seconds < right.seconds := by
  unfold IsExact at first second
  simp [Number.lt, first, second, Quantity.lt]

/-- What is not at most an exact number is above it. -/
theorem IsExact.lt_of_not_le (first : left.IsExact) (second : right.IsExact)
    (above : left.le right = false) : right.seconds < left.seconds := by
  by_contra below
  rw [(first.le_iff second).2 (not_lt.1 below)] at above
  cases above

/-- An exact number is not a decimal one. -/
theorem IsExact.not_isDecimal (exact : number.IsExact) : number.isDecimal = false := by
  cases number with
  | decimal value => cases exact
  | whole value => rfl
  | binary value => rfl

/-- The numbers are exact, and so is their sum. -/
structure Adds (left right : Number) : Prop where
  /-- The first number is exact. -/
  first : left.IsExact
  /-- So is the second one. -/
  second : right.IsExact
  /-- So is the sum. -/
  sum : ∃ sum, Value.addNumbers left right = .ok sum ∧ sum.IsExact ∧
    sum.seconds = left.seconds + right.seconds

/-- The sum of numbers that are added exactly. -/
theorem Adds.eq (adds : left.Adds right) {sum : Number}
    (added : Value.addNumbers left right = .ok sum) :
    sum.IsExact ∧ sum.seconds = left.seconds + right.seconds := by
  obtain ⟨other, same, exact, value⟩ := adds.sum
  cases same.symm.trans added
  exact ⟨exact, value⟩

/-- A whole number is exact. -/
theorem isExact_whole (value : Int) : (whole value).IsExact ∧ (whole value).seconds = value :=
  isExact_of_quantity rfl

/-- Whole numbers are added exactly. -/
theorem adds_whole (left right : Int) : (whole left).Adds (whole right) where
  first := (isExact_whole left).1
  second := (isExact_whole right).1
  sum := by
    refine ⟨whole (left + right), rfl, (isExact_whole _).1, ?_⟩
    rw [(isExact_whole _).2, (isExact_whole _).2, (isExact_whole _).2, Int.cast_add]

end Number

/-- The value is a number that is added to the other one exactly. -/
def Value.AddsTo (value : Value) (now : Number) : Prop :=
  ∃ number, value.number? = some number ∧ now.Adds number

/-- The time with a timeout added to it exactly. -/
theorem Value.AddsTo.eq {value : Value} {now number sum : Number} (adds : value.AddsTo now)
    (known : value.number? = some number) (added : value.addTo now = .ok sum) :
    sum.IsExact ∧ sum.seconds = now.seconds + number.seconds := by
  obtain ⟨other, same, sums⟩ := adds
  cases same.symm.trans known
  simp only [Value.addTo, known] at added
  exact sums.eq added

namespace Doing

/-- The clock adds what it is asked for exactly. -/
structure Exact (doing : Doing) : Prop where
  /-- When what is sent is finished. -/
  finish : ∀ delay, doing.delay? = some delay → doing.bench.now.Adds delay
  /-- When the wait for it is over. -/
  limit : doing.timeout.AddsTo doing.bench.now

/-- A clock that adds exactly can tell the times. -/
theorem Exact.told {doing : Doing} (exact : doing.Exact) : doing.Told where
  finish := by
    intro delay takes
    obtain ⟨sum, added, _⟩ := (exact.finish delay takes).sum
    exact ⟨sum, added⟩
  limit := by
    obtain ⟨number, known, adds⟩ := exact.limit
    obtain ⟨sum, added, fine, _⟩ := adds.sum
    refine ⟨sum, ?_, by rw [fine.not_isDecimal, Bool.false_and]⟩
    simp only [Value.addTo, known]
    exact added

/-- What is asked for is counted in whole seconds. -/
structure Counts (doing : Doing) : Prop where
  /-- What is sent takes a whole number of them. -/
  delay : ∀ delay, doing.delay? = some delay → delay.IsWhole
  /-- It is awaited for a whole number of them. -/
  timeout : ∃ seconds : Int, doing.timeout = .integer seconds

/-- A clock that counts whole seconds goes on so. -/
theorem Counts.staysIn {doing : Doing} (counts : doing.Counts) (now : doing.bench.now.IsWhole) :
    doing.StaysIn Number.IsWhole := by
  obtain ⟨seconds, there⟩ := now
  refine ⟨?_, ?_⟩
  · intro delay finish takes added _
    obtain ⟨further, rfl⟩ := counts.delay delay takes
    rw [there] at added
    cases added
    exact ⟨seconds + further, rfl⟩
  · intro limit added
    obtain ⟨further, timeout⟩ := counts.timeout
    rw [there, timeout] at added
    cases added
    exact ⟨seconds + further, rfl⟩

/-- It adds exactly. -/
theorem Counts.exact {doing : Doing} (counts : doing.Counts) (now : doing.bench.now.IsWhole) :
    doing.Exact := by
  obtain ⟨seconds, there⟩ := now
  refine ⟨fun delay takes => ?_, ?_⟩
  · obtain ⟨further, rfl⟩ := counts.delay delay takes
    rw [there]
    exact Number.adds_whole seconds further
  · obtain ⟨further, timeout⟩ := counts.timeout
    rw [there, timeout]
    exact ⟨.whole further, rfl, Number.adds_whole seconds further⟩

/-- For how long it is awaited, by the given settings. -/
def timeoutIn (settings : Settings) : Doing → Value
  | .sends _ => settings.blockTimeout
  | _ => settings.statementTimeout

/-- That is what it is awaited for by its own settings. -/
theorem timeout_eq (doing : Doing) : doing.timeout = doing.timeoutIn doing.bench.settings := by
  cases doing <;> rfl

/-- For how many seconds it is awaited, by the timeouts for blocked and for waiting statements. -/
def patience (block statement : ℚ) : Doing → ℚ
  | .sends _ => block
  | _ => statement

end Doing

/-- The timeouts in seconds: a statement counts as blocked after the first one, which is positive, and a
blocked one is waited for during the second one, which is longer. -/
structure Settings.Waits (settings : Settings) (block statement : ℚ) : Prop where
  /-- The first one. -/
  blocks : ∃ number, settings.blockTimeout.number? = some number ∧ number.seconds = block
  /-- The second one. -/
  waits : ∃ number, settings.statementTimeout.number? = some number ∧ number.seconds = statement
  /-- The first one is positive. -/
  positive : 0 < block
  /-- The second one is longer. -/
  longer : block < statement

namespace Run

/-- The clock of a run is exact: the run begins at an exact time with the given timeouts, and each time
that it asks for is an exact sum. -/
structure ExactClock (batch : Batch) (start : Bench) (block statement : ℚ) : Prop where
  /-- The timeouts are the given ones. -/
  timeouts : start.settings.Waits block statement
  /-- The time is exact. -/
  now : start.now.IsExact
  /-- All sums are exact. -/
  adds : ∀ doing, Does batch start doing → doing.Exact

variable {batch : Batch} {start : Bench} {station later : Station} {doings more : List Doing}
  {doing : Doing} {block statement : ℚ}

/-- The texts of a batch keep the settings. -/
theorem preserves_settings (batch : Batch) (settings : Settings) :
    batch.Preserves fun scene => scene.settings = settings :=
  ⟨fun _ same _ _ _ _ => same, fun _ same _ _ => same⟩

/-- Whatever a run does is done with the settings with which it began. -/
theorem Does.settings (does : Does batch start doing) (numbered : batch.Numbered) :
    doing.bench.settings = start.settings :=
  (does.takesPlace numbered (preserves_settings batch start.settings) rfl).scene

/-- A run keeps the rules of its server proper. -/
theorem Does.proper (does : Does batch start doing) (numbered : batch.Numbered)
    (proper : start.server.Proper) : doing.bench.server.Proper :=
  proper.of_rules
    (does.takesPlace numbered (preserves_policy batch start.server.policy) rfl).scene

/-- What a run sends takes no time, or as long as a rule says. -/
theorem Does.delay_of_rule (does : Does batch start doing) (numbered : batch.Numbered)
    (plain : batch.Plain) (proper : start.server.Proper) {delay : Number}
    (takes : doing.delay? = some delay) :
    delay = .whole 0 ∨ ∃ rule ∈ start.server.rules, rule.delay.asIncrease = .ok delay := by
  have policy : doing.bench.server.policy = start.server.policy :=
    (does.takesPlace numbered (preserves_policy batch start.server.policy) rfl).scene
  obtain ⟨⟨session, message⟩, sent, rfl⟩ := Option.map_eq_some_iff.1 takes
  obtain ⟨text, rfl⟩ := does.exists_text numbered plain sent
  refine (Session.delay_of_rule (does.proper numbered proper) session text).imp id ?_
  rintro ⟨rule, member, gives⟩
  have listed : rule.fresh ∈ start.server.policy := policy ▸ List.mem_map_of_mem member
  obtain ⟨known, inside, alike⟩ := List.mem_map.1 listed
  exact ⟨known, inside, (congrArg Value.asIncrease (Rule.delay_of_fresh alike)).trans gives⟩

/-- What outlasts a timeout is finished after the end of it. -/
theorem exists_limit_of_outlasts {now finish : Number} {timeout : Value}
    (late : outlasts now finish timeout = true) :
    ∃ limit, timeout.addTo now = .ok limit ∧ limit.lt finish = true := by
  have passed : (timeout.addTo now).toOption.any (·.lt finish) = true := by
    unfold outlasts at late
    split at late
    · cases late
    · exact (Bool.and_eq_true_iff.1 late).2
  cases added : timeout.addTo now with
  | error cause =>
    rw [added] at passed
    cases passed
  | ok limit =>
    rw [added] at passed
    exact ⟨limit, rfl, passed⟩

namespace ExactClock

/-- The end of a wait is later than now by the timeout. -/
theorem limit (clock : ExactClock batch start block statement) (numbered : batch.Numbered)
    (does : Does batch start doing) {limit : Number}
    (added : doing.timeout.addTo doing.bench.now = .ok limit) :
    limit.IsExact ∧ limit.seconds = doing.bench.now.seconds + doing.patience block statement := by
  have lasts : ∃ number, doing.timeout.number? = some number ∧
      number.seconds = doing.patience block statement := by
    rw [doing.timeout_eq, does.settings numbered]
    cases doing with
    | sends => exact clock.timeouts.blocks
    | aborts => exact clock.timeouts.waits
    | waits => exact clock.timeouts.waits
  obtain ⟨number, known, same⟩ := lasts
  rw [← same]
  exact (clock.adds doing does).limit.eq known added

/-- A rollback that is not finished in time takes longer than the timeout for waiting statements. -/
theorem lt_of_overruns (clock : ExactClock batch start block statement) (numbered : batch.Numbered)
    {transaction : OpenTransaction} {bench : Bench}
    (does : Does batch start (.aborts transaction bench))
    (overruns : Overruns transaction.session bench) :
    statement < (rollbackReply transaction.session bench).delay.seconds := by
  obtain ⟨finish, added, late⟩ := overruns
  obtain ⟨exact, takes⟩ := ((clock.adds _ does).finish _ rfl).eq added
  obtain ⟨limit, limited, passed⟩ := exists_limit_of_outlasts late
  obtain ⟨last, waits⟩ := clock.limit numbered does limited
  have later : limit.seconds < finish.seconds := (last.lt_iff exact).1 passed
  have sum : limit.seconds = bench.now.seconds + statement := waits
  have now : finish.seconds = bench.now.seconds + (rollbackReply transaction.session bench).delay.seconds :=
    takes
  linarith

/-- What is asked for is exact and does not lie before a time that is over. -/
theorem staysIn (clock : ExactClock batch start block statement) (numbered : batch.Numbered)
    (does : Does batch start doing) {base : ℚ} (begun : base ≤ doing.bench.now.seconds) :
    doing.StaysIn fun number => number.IsExact ∧ base ≤ number.seconds where
  finish := by
    intro delay finish takes added ahead
    have adds := (clock.adds doing does).finish delay takes
    obtain ⟨exact, _⟩ := adds.eq added
    exact ⟨exact, begun.trans (exact.lt_of_not_le adds.first ahead).le⟩
  limit := by
    intro limit added
    obtain ⟨exact, sum⟩ := clock.limit numbered does added
    have patient : 0 ≤ doing.patience block statement := by
      cases doing with
      | sends => exact clock.timeouts.positive.le
      | aborts => exact (clock.timeouts.positive.trans clock.timeouts.longer).le
      | waits => exact (clock.timeouts.positive.trans clock.timeouts.longer).le
    exact ⟨exact, by linarith⟩

/-- A clock is exact if the time at which the run begins, the delays of the rules and the timeouts are
whole numbers. -/
theorem of_whole (numbered : batch.Numbered) (plain : batch.Plain) (proper : start.server.Proper)
    (begun : start.now.IsWhole) {block statement : Int}
    (blocks : start.settings.blockTimeout = .integer block)
    (waits : start.settings.statementTimeout = .integer statement) (positive : 0 < block)
    (longer : block < statement)
    (delays : ∀ rule ∈ start.server.rules, ∃ delay : Int, rule.delay = .integer delay) :
    ExactClock batch start block statement where
  timeouts :=
    { blocks := ⟨.whole block, congrArg Value.number? blocks, (Number.isExact_whole block).2⟩
      waits := ⟨.whole statement, congrArg Value.number? waits, (Number.isExact_whole statement).2⟩
      positive := by exact_mod_cast positive
      longer := by exact_mod_cast longer }
  now := by
    obtain ⟨seconds, same⟩ := begun
    exact same ▸ (Number.isExact_whole seconds).1
  adds := by
    have counts : ∀ doing, Does batch start doing → doing.Counts := by
      refine fun doing does => ⟨?_, ?_⟩
      · intro delay takes
        rcases does.delay_of_rule numbered plain proper takes with rfl | ⟨rule, member, gives⟩
        · exact ⟨0, rfl⟩
        · obtain ⟨seconds, same⟩ := delays rule member
          rw [same] at gives
          cases gives
          exact ⟨seconds, rfl⟩
      · rw [doing.timeout_eq, does.settings numbered]
        cases doing with
        | sends => exact ⟨block, blocks⟩
        | aborts => exact ⟨statement, waits⟩
        | waits => exact ⟨statement, waits⟩
    intro doing does
    exact (counts doing does).exact (does.keepsTime Number.IsWhole numbered
      (fun doing does now => (counts doing does).staysIn now) begun)

end ExactClock

/-- None of several parked statements is finished before the first one is. -/
theorem firstFinish_le {first : Parked} {others : List Parked}
    (finishes : ∀ parked ∈ first :: others, parked.finish.IsExact) :
    ∀ parked ∈ first :: others,
      (firstFinish first others).seconds ≤ parked.finish.seconds := by
  -- the search may begin with any time, for it goes on with the earliest one so far
  have fold : ∀ earliest : Number, earliest.IsExact → (∀ parked ∈ others, parked.finish.IsExact) →
      let found := others.foldl (fun earliest parked => earliest.earliest parked.finish) earliest
      found.seconds ≤ earliest.seconds ∧ ∀ parked ∈ others, found.seconds ≤ parked.finish.seconds := by
    clear finishes
    induction others with
    | nil => exact fun _ _ _ => ⟨le_refl _, fun _ impossible => by cases impossible⟩
    | cons other rest hypothesis =>
      intro earliest exact finishes
      have fine := finishes other List.mem_cons_self
      have sooner : (earliest.earliest other.finish).IsExact ∧
          (earliest.earliest other.finish).seconds ≤ earliest.seconds ∧
            (earliest.earliest other.finish).seconds ≤ other.finish.seconds := by
        unfold Number.earliest
        split
        next before => exact ⟨fine, ((fine.lt_iff exact).1 before).le, le_refl _⟩
        next after =>
          exact ⟨exact, le_refl _, not_lt.1 fun before => after ((fine.lt_iff exact).2 before)⟩
      obtain ⟨below, least⟩ := hypothesis _ sooner.1 fun parked inside =>
        finishes parked (List.mem_cons_of_mem _ inside)
      refine ⟨below.trans sooner.2.1, fun parked inside => ?_⟩
      rcases List.mem_cons.1 inside with rfl | later
      · exact below.trans sooner.2.2
      · exact least parked later
  obtain ⟨below, least⟩ := fold first.finish (finishes first List.mem_cons_self) fun parked inside =>
    finishes parked (List.mem_cons_of_mem _ inside)
  intro parked inside
  rcases List.mem_cons.1 inside with rfl | later
  · exact below
  · exact least parked later

/-- A wait is in vain only if every parked statement is finished after its end. -/
theorem lt_of_waitsInVain {first : Parked} {others : List Parked} {limit now : Number}
    (finishes : ∀ parked ∈ first :: others, parked.finish.IsExact) (last : limit.IsExact)
    (present : now.IsExact) (vain : waitsInVain first others limit now = true) :
    waitedUntil first others limit now = limit ∧
      ∀ parked ∈ first :: others, limit.seconds < parked.finish.seconds := by
  obtain ⟨soonest, inside, same⟩ := exists_firstFinish first others
  have exact : (firstFinish first others).IsExact := same ▸ finishes soonest inside
  by_cases passed : limit.lt (firstFinish first others) = true
  · refine ⟨if_pos passed, fun parked member => ?_⟩
    exact ((last.lt_iff exact).1 passed).trans_le (firstFinish_le finishes parked member)
  · exfalso
    -- an exact clock that is moved to the soonest finish has reached it
    have reached : soonest.finish.le (waitedUntil first others limit now) = true := by
      rw [waitedUntil, if_neg passed, Number.latest, ← same]
      split
      · exact (exact.le_iff exact).2 (le_refl _)
      next reached =>
        have sooner : ¬ now.seconds < (firstFinish first others).seconds := fun ahead =>
          reached ((present.lt_iff exact).2 ahead)
        exact (exact.le_iff present).2 (not_lt.1 sooner)
    have some : (first :: others).any (·.finish.le (waitedUntil first others limit now)) = true :=
      List.any_eq_true.2 ⟨soonest, inside, reached⟩
    rw [waitsInVain, some, Bool.not_true, Bool.or_false] at vain
    exact passed vain

section

variable (numbered : batch.Numbered) (clock : ExactClock batch start block statement)

include numbered clock

/-- The time at a station is exact. -/
theorem Goes.exact (goes : Goes batch start doings station) : station.moment.bench.now.IsExact :=
  (goes.keepsTime numbered (fun _ done begun => clock.staysIn numbered (goes.does done) begun.2)
    ⟨clock.now, le_refl _⟩).1.1

/-- A statement that was late is finished after its delay. -/
theorem Goes.finish_of_late (goes : Goes batch start doings station) {sending : Sending}
    (sent : sending ∈ station.moment.sendings) (late : sending.isLate = true) :
    sending.finish.IsExact ∧
      sending.finish.seconds = sending.bench.now.seconds + sending.reply.delay.seconds :=
  have does := goes.does ((goes.mem_sendings numbered).1 sent)
  ((clock.adds _ does).finish _ rfl).eq (finish_of_isLate late).1

/-- What is parked is finished at an exact time. -/
theorem Goes.parked_exact (goes : Goes batch start doings station) :
    ∀ parked ∈ station.moment.progress.parked, parked.finish.IsExact := by
  intro parked waiting
  obtain ⟨sending, sent, late, rfl⟩ := (goes.sound numbered).exists_sending numbered waiting
  exact (goes.finish_of_late numbered clock sent late).1

/-- The clock never goes back. -/
theorem Step.forward (step : Step batch station more later) (goes : Goes batch start doings station) :
    station.moment.bench.now.seconds ≤ later.moment.bench.now.seconds := by
  have exact := goes.exact numbered clock
  have moved := step.clock
    (fun number => number.IsExact ∧ station.moment.bench.now.seconds ≤ number.seconds)
    (fun doing done begun => clock.staysIn numbered
      ((goes.next step).does (List.mem_append_right _ done)) begun.2)
    (fun parked waiting ahead =>
      have finish := goes.parked_exact numbered clock parked waiting
      ⟨finish, ((exact.lt_iff finish).1 ahead).le⟩)
    ⟨exact, le_refl _⟩
  exact moved.2

/-- A statement that was late was sent at least the block timeout ago. -/
theorem Goes.sent_before (goes : Goes batch start doings station) :
    ∀ sending ∈ station.moment.sendings, sending.isLate = true →
      sending.bench.now.seconds + block ≤ station.moment.bench.now.seconds := by
  induction goes with
  | first => simp [Station.first, Moment.first]
  | @next doings more station later goes step hypothesis =>
    have forward := step.forward numbered clock goes
    have does : ∀ doing ∈ more, Does batch start doing := fun doing done =>
      (goes.next step).does (List.mem_append_right _ done)
    intro sending sent late
    cases step with
    | passes => exact hypothesis sending sent late
    | settles => exact (hypothesis sending sent late).trans forward
    | waits => exact (hypothesis sending sent late).trans forward
    | sends moment first others new progress bench runnable picked next answered =>
      rcases List.mem_append.1 sent with earlier | last
      · exact (hypothesis sending earlier late).trans forward
      · obtain rfl := List.mem_singleton.1 last
        -- it was parked when the block timeout was over, and the clock stands there
        have awaited := (sendStatement_awaits answered).2
        have went := (sendStatement_waits answered).2
        rw [late] at awaited
        rw [if_pos late] at went
        rcases await_clock awaited with ⟨impossible, _⟩ | ⟨_, limit, added, _, moved⟩
        · cases impossible
        · have sum := (clock.limit numbered (does _ List.mem_cons_self) added).2
          show _ ≤ bench.now.seconds
          rw [went.1.now, moved, sum]
          exact le_refl _

end

end Run

namespace Sample

/-- Adding a row and rolling back take so many seconds, and reading is answered by a deadlock. -/
def sluggish (row rollback : Int) : List Rule :=
  [{ start := some (.text "INSERT"), delay := .integer row },
    { start := some (.text "SELECT"), delay := .integer 0,
      answer := .failure (.ok .statement) "deadlock detected" false },
    { start := some (.text "ROLLBACK"), delay := .integer rollback }]

/-- A bench on which a statement is blocked after one second and waited for during thirty. -/
def patient (rules : List Rule) : Bench :=
  { bench rules with settings := { blockTimeout := .integer 1, statementTimeout := .integer 30 } }

variable {row rollback : Int}

/-- Each of the rules is about texts with a given front and has a number for a delay. -/
theorem eq_of_mem_sluggish {rule : Rule} (listed : rule ∈ sluggish row rollback) :
    ∃ front delay answer, (delay = row ∨ delay = 0 ∨ delay = rollback) ∧
      rule = { start := some (.text front), delay := .integer delay, answer } ∧
        (answer = .engine ∨ answer = .failure (.ok .statement) "deadlock detected" false) := by
  simp only [sluggish, List.mem_cons, List.not_mem_nil, or_false] at listed
  rcases listed with rfl | rfl | rfl
  · exact ⟨"INSERT", row, .engine, .inl rfl, rfl, .inl rfl⟩
  · exact ⟨"SELECT", 0, _, .inr (.inl rfl), rfl, .inr rfl⟩
  · exact ⟨"ROLLBACK", rollback, .engine, .inr (.inr rfl), rfl, .inl rfl⟩

/-- The rules are proper. -/
theorem sluggish_proper (row rollback : Int) : (patient (sluggish row rollback)).server.Proper := by
  intro rule listed
  obtain ⟨front, delay, answer, _, rfl, given⟩ := eq_of_mem_sluggish listed
  exact Rule.proper_of_front front delay (given.imp id fun same =>
    ⟨.statement, _, _, by decide, same⟩)

/-- A run of the single transaction under these rules counts whole seconds. -/
theorem sluggish_clock {start : Bench} (same : start.ActsAs (patient (sluggish row rollback))) :
    Run.ExactClock single start 1 30 := by
  have delays : ∀ rule ∈ start.server.rules, ∃ delay : Int, rule.delay = .integer delay := by
    refine Server.forall_rules_of_fresh ?_ ?_ same.policy
    · rintro one two alike ⟨delay, known⟩
      exact ⟨delay, (Rule.delay_of_fresh alike).symm.trans known⟩
    · intro rule listed
      obtain ⟨_, delay, _, _, rfl, _⟩ := eq_of_mem_sluggish listed
      exact ⟨delay, rfl⟩
  have clock := Run.ExactClock.of_whole single_numbered single_plain
    ((sluggish_proper row rollback).of_rules same.policy) ⟨0, same.now⟩
    (congrArg Settings.blockTimeout same.settings : start.settings.blockTimeout = .integer 1)
    (congrArg Settings.statementTimeout same.settings : start.settings.statementTimeout = .integer 30)
    (by decide) (by decide) delays
  exact_mod_cast clock

end Sample

end SerialCheck

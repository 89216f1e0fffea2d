import Mathlib.Algebra.Order.Ring.Rat
import Mathlib.Data.Rat.Cast.Order
import Mathlib.Order.WithBot
import Mathlib.Tactic.NormNum
import SerialCheck.Proofs.Generated.Beginning

/-!
# Settings in range

Numbers are compared by their places on the extended rational line, on which what is not a number has no
place (`Value.place?`). Settings that are read from texts are accepted exactly if they are in range, except
that a timeout that is not a number is let through (`Settings.validate_iff_inRange`): the tests of the
timeouts ask whether they are out of order, and not whether they are in order.
-/
namespace SerialCheck

/-- The rational numbers with a least and a greatest element. -/
abbrev ExtendedRational := WithBot (WithTop ℚ)

/-- A rational number is below infinity. -/
theorem ExtendedRational.coe_lt_top (value : ℚ) : ((value : WithTop ℚ) : ExtendedRational) < ⊤ :=
  WithBot.coe_lt_coe.2 (WithTop.coe_lt_top value)

/-- The places of rational numbers are in the order of the numbers. -/
theorem ExtendedRational.coe_le {left right : ℚ} (le : left ≤ right) :
    ((left : WithTop ℚ) : ExtendedRational) ≤ ((right : WithTop ℚ) : ExtendedRational) :=
  WithBot.coe_le_coe.2 (WithTop.coe_le_coe.2 le)

/-- So they are with nothing in between. -/
theorem ExtendedRational.coe_lt {left right : ℚ} (lt : left < right) :
    ((left : WithTop ℚ) : ExtendedRational) < ((right : WithTop ℚ) : ExtendedRational) :=
  WithBot.coe_lt_coe.2 (WithTop.coe_lt_coe.2 lt)

namespace Quantity

/-- The place of a quantity, none for what is not a number. -/
def place? : Quantity → Option ExtendedRational
  | .minusInfinity => some ⊥
  | .finite value => some ((value : WithTop ℚ) : ExtendedRational)
  | .infinity => some ⊤
  | .nan => none

/-- Quantities are ordered by their places. -/
theorem le_iff {left right : Quantity} :
    left.le right = true ↔ ∃ first ∈ left.place?, ∃ second ∈ right.place?, first ≤ second := by
  cases left <;> cases right <;> simp [le, place?]

/-- So is the strict order. -/
theorem lt_iff {left right : Quantity} :
    left.lt right = true ↔ ∃ first ∈ left.place?, ∃ second ∈ right.place?, first < second := by
  cases left <;> cases right <;> simp [lt, place?, ExtendedRational.coe_lt_top]

end Quantity

/-- The place of a binary number: that of its significand at its exponent, with its sign. -/
def Binary64.place? : Binary64 → Option ExtendedRational
  | .finite negative significand exponent =>
    some (((if negative then -1 else 1) * (significand * 2 ^ exponent : ℚ) : ℚ) : WithTop ℚ)
  | .infinite negative => some (if negative then ⊥ else ⊤)
  | .nan => none

/-- The quantity of a binary number has the place of the number. -/
theorem Binary64.place?_quantity (number : Binary64) : number.quantity.place? = number.place? := by
  cases number with
  | nan => rfl
  | infinite negative => cases negative <;> rfl
  | finite negative significand exponent =>
    have scaled : mkRat ((significand : Int) * power 2 exponent) (power 2 (-exponent)) =
        (significand * 2 ^ exponent : ℚ) := by
      rw [Rat.mkRat_eq_div]
      rcases le_total 0 exponent with up | down
      · obtain ⟨count, rfl⟩ := Int.eq_ofNat_of_zero_le up
        simp [power]
      · obtain ⟨count, same⟩ := Int.eq_ofNat_of_zero_le (Int.neg_nonneg_of_nonpos down)
        obtain rfl : exponent = -(count : Int) := by omega
        simp [power, zpow_neg, div_eq_mul_inv]
    cases negative <;> simp [quantity, Quantity.place?, place?, scaled]

namespace Value

/-- The place of a whole number or a binary one, none for values of other kinds. -/
def place? : Value → Option ExtendedRational
  | .integer value => some ((value : ℚ) : WithTop ℚ)
  | .real value => value.place?
  | _ => none

/-- The first value has a place that is not above that of the second one. -/
def AtMost (left right : Value) : Prop :=
  ∃ first ∈ left.place?, ∃ second ∈ right.place?, first ≤ second

/-- The first value has a place below that of the second one. -/
def Below (left right : Value) : Prop :=
  ∃ first ∈ left.place?, ∃ second ∈ right.place?, first < second

/-- The value is a binary number. -/
def IsReal (value : Value) : Prop := ∃ number, value = .real number

/-- The value is a whole number or a binary one. -/
def IsPlain (value : Value) : Prop := value.IsWhole ∨ value.IsReal

variable {left right : Value}

/-- A test answers whether something holds. -/
def Decides (test : Except Misuse Bool) (holds : Prop) : Prop :=
  ∃ answer : Bool, test = .ok answer ∧ (answer = true ↔ holds)

/-- A whole number or a binary one is a number with a quantity at the place of the value. -/
theorem IsPlain.exists_quantity {value : Value} (plain : value.IsPlain) :
    ∃ number quantity, value.number? = some number ∧ number.isDecimal = false ∧
      number.quantity? = some quantity ∧ quantity.place? = value.place? := by
  rcases plain with ⟨number, rfl⟩ | ⟨number, rfl⟩
  · exact ⟨_, _, rfl, rfl, rfl, rfl⟩
  · exact ⟨_, _, rfl, rfl, rfl, number.place?_quantity⟩

/-- Numbers that are not decimal are compared as numbers. -/
theorem IsPlain.compare_eq (relation : Relation) (first : left.IsPlain) (second : right.IsPlain) :
    compare relation left right = compareNumbers relation left right := by
  rcases first with ⟨_, rfl⟩ | ⟨_, rfl⟩ <;> rcases second with ⟨_, rfl⟩ | ⟨_, rfl⟩ <;>
    rw [compare]
  all_goals
    intro _ _ same
    cases same

/-- It is decided whether one number is not above another one. -/
theorem IsPlain.decides_isAtMost (first : left.IsPlain) (second : right.IsPlain) :
    Decides (left.isAtMost right) (left.AtMost right) := by
  have compared := first.compare_eq .atMost second
  obtain ⟨number, quantity, known, binary, exact, same⟩ := first.exists_quantity
  obtain ⟨other, magnitude, found, plain, precise, alike⟩ := second.exists_quantity
  refine ⟨quantity.le magnitude, ?_, ?_⟩
  · rw [isAtMost, compared]
    simp [compareNumbers, known, found, Number.isMuddled, binary, plain, Relation.holds, Number.le, exact,
      precise]
  · rw [Quantity.le_iff, same, alike, AtMost]

/-- It is decided whether one number is below another one. -/
theorem IsPlain.decides_isBelow (first : left.IsPlain) (second : right.IsPlain) :
    Decides (left.isBelow right) (left.Below right) := by
  have compared := first.compare_eq .below second
  obtain ⟨number, quantity, known, binary, exact, same⟩ := first.exists_quantity
  obtain ⟨other, magnitude, found, plain, precise, alike⟩ := second.exists_quantity
  refine ⟨quantity.lt magnitude, ?_, ?_⟩
  · rw [isBelow, compared]
    simp [compareNumbers, known, found, Number.isMuddled, binary, plain, Relation.holds, Number.lt, exact,
      precise]
  · rw [Quantity.lt_iff, same, alike, Below]

theorem IsWhole.isPlain {value : Value} (whole : value.IsWhole) : value.IsPlain := .inl whole

theorem IsReal.isPlain {value : Value} (real : value.IsReal) : value.IsPlain := .inr real

theorem isPlain_integer (number : Int) : (integer number).IsPlain := .inl ⟨number, rfl⟩

/-- A value that has a place is not below another one exactly if that one is not above it. -/
theorem not_below_iff {first second : ExtendedRational} (left_eq : left.place? = some first)
    (right_eq : right.place? = some second) : ¬left.Below right ↔ right.AtMost left := by
  simp [Below, AtMost, left_eq, right_eq]

theorem not_atMost_iff {first second : ExtendedRational} (left_eq : left.place? = some first)
    (right_eq : right.place? = some second) : ¬left.AtMost right ↔ right.Below left := by
  simp [Below, AtMost, left_eq, right_eq]

/-- Whole numbers have places. -/
theorem IsWhole.not_below_iff (first : left.IsWhole) (second : right.IsWhole) :
    ¬left.Below right ↔ right.AtMost left := by
  obtain ⟨_, rfl⟩ := first
  obtain ⟨_, rfl⟩ := second
  exact Value.not_below_iff rfl rfl

/-- A binary number that has no place is not a number. -/
theorem IsReal.place?_eq_none {value : Value} (binary : value.IsReal) :
    value.place? = none ↔ value = .real .nan := by
  obtain ⟨number, rfl⟩ := binary
  cases number <;> simp [place?, Binary64.place?]

/-- A binary number has the place of the whole number that it is. -/
theorem place?_finite {negative : Bool} {significand : Nat} {exponent value : Int}
    (same : (if negative then -1 else 1) * (significand * 2 ^ exponent : ℚ) = value) :
    (real (.finite negative significand exponent)).place? = (integer value).place? :=
  congrArg (fun place : ℚ => some ((place : WithTop ℚ) : ExtendedRational)) same

/-- The binary number zero has the place of the whole number. -/
theorem zero_atMost : (real .zero).AtMost right ↔ (integer 0).AtMost right := by
  have same : (real .zero).place? = (integer 0).place? := place?_finite (by norm_num)
  rw [AtMost, AtMost, same]

/-- So has one. -/
theorem atMost_one : left.AtMost (real .one) ↔ left.AtMost (integer 1) := by
  have same : (real .one).place? = (integer 1).place? := place?_finite (by norm_num)
  rw [AtMost, AtMost, same]

end Value

/-! ## Tests and checks -/

namespace SettingsError

/-- A setting is out of its range. -/
def isOfRange : SettingsError → Bool
  | .sizeRange .. | .batchSize _ | .rollbackProbability _ | .generationAttempts | .nothingEnabled
  | .notDisableable _ | .isolationLevel _ | .maxOrders | .timeouts => true
  | .notWhole .. | .notNumber .. | .unknownKind _ | .misuse _ => false

end SettingsError

namespace Settings

variable {α : Type} {test first second : Except Misuse Bool} {holds other : Prop}

theorem decides_opposite (answers : Value.Decides test holds) : Value.Decides (opposite test) ¬holds := by
  obtain ⟨answer, rfl, meaning⟩ := answers
  exact ⟨!answer, rfl, by simp [← meaning]⟩

theorem decides_either (answers : Value.Decides first holds) (next : Value.Decides second other) :
    Value.Decides (either first second) (holds ∨ other) := by
  obtain ⟨answer, rfl, meaning⟩ := answers
  cases answer with
  | true => exact ⟨true, rfl, by simp [← meaning]⟩
  | false =>
    obtain ⟨answer, rfl, told⟩ := next
    exact ⟨answer, rfl, by simp [← meaning, told]⟩

/-- A check gives its result if something is the case, and otherwise names a setting that is out of its
range. -/
structure Admits (check : Except SettingsError α) (result : α) (fits : Prop) : Prop where
  /-- The result. -/
  passes : fits → check = .ok result
  /-- The setting. -/
  refuses : ¬fits → ∃ cause, check = .error cause ∧ cause.isOfRange = true

/-- Settings are refused exactly if what the test asks for is the case. -/
theorem admits_refuseIf {reason : SettingsError} (answers : Value.Decides test holds)
    (range : reason.isOfRange = true) : Admits (refuseIf test reason) () ¬holds := by
  obtain ⟨answer, rfl, meaning⟩ := answers
  cases answer with
  | true => exact ⟨fun none => absurd (meaning.1 rfl) none, fun _ => ⟨reason, rfl, range⟩⟩
  | false => exact ⟨fun _ => rfl, fun some => absurd (meaning.2 (not_not.1 some)) Bool.false_ne_true⟩

/-- Checks in sequence admit what each of them admits. -/
theorem Admits.next {check : Except SettingsError Unit} {rest : Except SettingsError α} {result : α}
    (admits : Admits check () holds) (further : Admits rest result other) :
    Admits (do check; rest) result (holds ∧ other) := by
  constructor
  · rintro ⟨fits, later⟩
    rw [admits.passes fits]
    exact further.passes later
  · intro unfit
    by_cases fits : holds
    · rw [admits.passes fits]
      exact further.refuses fun later => unfit ⟨fits, later⟩
    · obtain ⟨cause, refused, range⟩ := admits.refuses fits
      exact ⟨cause, by rw [refused]; rfl, range⟩

theorem Admits.congr {check : Except SettingsError α} {result : α} (admits : Admits check result holds)
    (same : holds ↔ other) : Admits check result other :=
  ⟨fun fits => admits.passes (same.2 fits), fun unfit => admits.refuses fun fits => unfit (same.1 fits)⟩

/-! ## The ranges -/

/-- Settings of the kinds that are read from texts: whole numbers, binary numbers and a text. -/
structure Plain (settings : Settings) : Prop where
  /-- The least number of data statements. -/
  minSize : settings.minSize.IsWhole
  /-- The greatest number of data statements. -/
  maxSize : settings.maxSize.IsWhole
  /-- The number of transactions. -/
  batchSize : settings.batchSize.IsWhole
  /-- The probability of a rollback. -/
  probability : settings.rollbackProbability.IsReal
  /-- The number of attempts. -/
  attempts : settings.generationAttempts.IsWhole
  /-- The isolation level. -/
  isolation : ∃ name, settings.isolationLevel = .text name
  /-- The number of serial orders. -/
  orders : settings.maxOrders.IsWhole
  /-- The time after which a statement counts as blocked. -/
  blockTimeout : settings.blockTimeout.IsReal
  /-- The time for which a blocked statement is waited for. -/
  statementTimeout : settings.statementTimeout.IsReal

/-- All settings but the timeouts are in range. -/
structure InRange (settings : Settings) : Prop where
  /-- The least number of data statements is natural. -/
  natural : (Value.integer 0).AtMost settings.minSize
  /-- The numbers of data statements are a range. -/
  ordered : settings.minSize.AtMost settings.maxSize
  /-- There is a transaction. -/
  batch : (Value.integer 1).AtMost settings.batchSize
  /-- The probability is not below zero. -/
  possible : (Value.integer 0).AtMost settings.rollbackProbability
  /-- The probability is not above one. -/
  certain : settings.rollbackProbability.AtMost (.integer 1)
  /-- There is an attempt. -/
  attempts : (Value.integer 1).AtMost settings.generationAttempts
  /-- A kind of data statement is enabled. -/
  enabled : ∃ kind ∈ StatementKind.data, kind ∉ settings.disabled
  /-- Only kinds of data statements are disabled. -/
  disabled : ∀ kind ∈ settings.disabled, kind ∈ StatementKind.data
  /-- The isolation level exists, letter case aside. -/
  isolation : ∃ name, settings.isolationLevel = .text name ∧ Text.upper name ∈ isolationLevels
  /-- There is a serial order. -/
  orders : (Value.integer 1).AtMost settings.maxOrders

/-- The timeouts are positive and ascending. -/
def Ascends (settings : Settings) : Prop :=
  (Value.integer 0).Below settings.blockTimeout ∧ settings.blockTimeout.Below settings.statementTimeout

/-- One of the timeouts is not a number, and the other one does not rule it out. -/
def Unordered (settings : Settings) : Prop :=
  settings.blockTimeout = .real .nan ∨
    (Value.integer 0).Below settings.blockTimeout ∧ settings.statementTimeout = .real .nan

variable {settings : Settings}

/-- The check of a whole number that has to be positive. -/
theorem admits_positive {value : Value} {reason : SettingsError} (whole : value.IsWhole)
    (range : reason.isOfRange = true) :
    Admits (refuseIf (value.isBelow (.integer 1)) reason) () ((Value.integer 1).AtMost value) :=
  (admits_refuseIf (whole.isPlain.decides_isBelow (Value.isPlain_integer 1)) range).congr
    (whole.not_below_iff ⟨1, rfl⟩)

namespace Plain

variable (plain : settings.Plain)

include plain

theorem admits_checkSizes : Admits settings.checkSizes ()
    ((Value.integer 0).AtMost settings.minSize ∧ settings.minSize.AtMost settings.maxSize) := by
  have natural := plain.minSize.isPlain.decides_isBelow (Value.isPlain_integer 0)
  have ordered := plain.maxSize.isPlain.decides_isBelow plain.minSize.isPlain
  refine (admits_refuseIf (decides_either natural ordered) rfl).congr ?_
  rw [not_or, plain.minSize.not_below_iff ⟨0, rfl⟩, plain.maxSize.not_below_iff plain.minSize]

theorem admits_checkBatchSize :
    Admits settings.checkBatchSize () ((Value.integer 1).AtMost settings.batchSize) :=
  admits_positive plain.batchSize rfl

theorem admits_checkAttempts :
    Admits settings.checkAttempts () ((Value.integer 1).AtMost settings.generationAttempts) :=
  admits_positive plain.attempts rfl

theorem admits_checkOrders : Admits settings.checkOrders () ((Value.integer 1).AtMost settings.maxOrders) :=
  admits_positive plain.orders rfl

/-- A probability that is not a number is refused, because it has to be in order with the bounds. -/
theorem admits_checkProbability : Admits settings.checkProbability ()
    ((Value.integer 0).AtMost settings.rollbackProbability ∧
      settings.rollbackProbability.AtMost (.integer 1)) := by
  have zero : Value.IsPlain (.real .zero) := .inr ⟨_, rfl⟩
  have one : Value.IsPlain (.real .one) := .inr ⟨_, rfl⟩
  have possible := decides_opposite (zero.decides_isAtMost plain.probability.isPlain)
  have certain := decides_opposite (plain.probability.isPlain.decides_isAtMost one)
  refine (admits_refuseIf (decides_either possible certain) rfl).congr ?_
  rw [not_or, not_not, not_not, Value.zero_atMost, Value.atMost_one]

/-- A timeout that is not a number is accepted, because it is only not to be out of order. -/
theorem admits_checkTimeouts : Admits settings.checkTimeouts () (settings.Ascends ∨ settings.Unordered) := by
  have positive := plain.blockTimeout.isPlain.decides_isAtMost (Value.isPlain_integer 0)
  have longer := plain.statementTimeout.isPlain.decides_isAtMost plain.blockTimeout.isPlain
  refine (admits_refuseIf (decides_either positive longer) rfl).congr ?_
  rw [not_or, Ascends, Unordered]
  cases block : settings.blockTimeout.place? with
  | none =>
    have unknown := plain.blockTimeout.place?_eq_none.1 block
    simp [Value.AtMost, unknown, Value.place?, Binary64.place?]
  | some first =>
    have known : settings.blockTimeout ≠ .real .nan := by
      intro unknown
      rw [plain.blockTimeout.place?_eq_none.2 unknown] at block
      cases block
    rw [Value.not_atMost_iff block rfl]
    cases statement : settings.statementTimeout.place? with
    | none =>
      have unknown := plain.statementTimeout.place?_eq_none.1 statement
      simp [Value.AtMost, Value.Below, unknown, known, Value.place?, Binary64.place?]
    | some second =>
      have ordered : settings.statementTimeout ≠ .real .nan := by
        intro unknown
        rw [plain.statementTimeout.place?_eq_none.2 unknown] at statement
        cases statement
      rw [Value.not_atMost_iff statement block]
      simp [known, ordered]

/-- The isolation level is looked up in capitals. -/
theorem admits_checkIsolation : Admits settings.checkIsolation ()
    (∃ name, settings.isolationLevel = .text name ∧ Text.upper name ∈ isolationLevels) := by
  obtain ⟨name, same⟩ := plain.isolation
  have found : Value.Decides (settings.isolationLevel.capitals.map fun level => !isLevel level)
      (Text.upper name ∉ isolationLevels) := by
    rw [same]
    exact ⟨!isolationLevels.contains (Text.upper name), rfl, by simp⟩
  refine (admits_refuseIf found rfl).congr ?_
  rw [not_not, same]
  simp

end Plain

/-- A kind of data statement is enabled, and only such kinds are disabled. -/
theorem admits_checkKinds (settings : Settings) : Admits settings.checkKinds ()
    ((∃ kind ∈ StatementKind.data, kind ∉ settings.disabled) ∧
      ∀ kind ∈ settings.disabled, kind ∈ StatementKind.data) := by
  have left : settings.enabled.isEmpty = true ↔ ¬∃ kind ∈ StatementKind.data, kind ∉ settings.disabled := by
    simp [enabled, List.filter_eq_nil_iff]
  unfold checkKinds
  split
  next none => exact ⟨fun fits => absurd fits.1 (left.1 none), fun _ => ⟨_, rfl, rfl⟩⟩
  next some =>
    have enabled := not_not.1 (mt left.2 some)
    cases found : settings.disabled.find? fun kind => !StatementKind.data.contains kind with
    | none =>
      have data : ∀ kind ∈ settings.disabled, kind ∈ StatementKind.data := by
        simpa using List.find?_eq_none.1 found
      exact ⟨fun _ => rfl, fun unfit => absurd ⟨enabled, data⟩ unfit⟩
    | some kind =>
      have other : kind ∉ StatementKind.data := by simpa using List.find?_some found
      exact ⟨fun fits => absurd (fits.2 kind (List.mem_of_find?_eq_some found)) other,
        fun _ => ⟨_, rfl, rfl⟩⟩

/-- Settings are admitted exactly if they are in range and the timeouts are not out of order. -/
theorem Plain.admits_validate (plain : settings.Plain) :
    Admits settings.validate settings (settings.InRange ∧ (settings.Ascends ∨ settings.Unordered)) := by
  have rest : Admits (pure settings : Except SettingsError Settings) settings True :=
    ⟨fun _ => rfl, fun never => absurd trivial never⟩
  have checks := plain.admits_checkSizes.next <| plain.admits_checkBatchSize.next <|
    plain.admits_checkProbability.next <| plain.admits_checkAttempts.next <|
    (admits_checkKinds settings).next <| plain.admits_checkIsolation.next <|
    plain.admits_checkOrders.next <| plain.admits_checkTimeouts.next rest
  refine Admits.congr checks ⟨?_, ?_⟩
  · rintro ⟨⟨natural, ordered⟩, batch, ⟨possible, certain⟩, attempts, ⟨enabled, disabled⟩, isolation, orders,
      timeouts, -⟩
    exact ⟨⟨natural, ordered, batch, possible, certain, attempts, enabled, disabled, isolation, orders⟩,
      timeouts⟩
  · rintro ⟨fits, timeouts⟩
    exact ⟨⟨fits.natural, fits.ordered⟩, fits.batch, ⟨fits.possible, fits.certain⟩, fits.attempts,
      ⟨fits.enabled, fits.disabled⟩, fits.isolation, fits.orders, timeouts, trivial⟩

/-! ## Settings that are read from texts -/

/-- What is read in sequence is read part by part. -/
theorem exists_of_bind {β : Type} {first : Except SettingsError α} {next : α → Except SettingsError β}
    {result : β} (done : first >>= next = .ok result) :
    ∃ value, first = .ok value ∧ next value = .ok result := by
  cases first with
  | error cause => cases done
  | ok value => exact ⟨value, rfl, done⟩

/-- What holds of settings and is kept by each variable of a table holds when all are read. -/
theorem readVariables_induct {read : String → Value → Except SettingsError Value} {environment : Environment}
    {keeps : Settings → Prop} {table : List (String × (Value → Settings → Settings))} {start : Settings}
    (kept : ∀ entry ∈ table, ∀ given value before, valueOf? environment entry.1 = some given →
      read entry.1 given = .ok value → keeps before → keeps (entry.2 value before))
    (begun : keeps start) (done : readVariables read environment table start = .ok settings) :
    keeps settings := by
  induction table generalizing start with
  | nil =>
    cases done
    exact begun
  | cons entry rest hypothesis =>
    obtain ⟨name, change⟩ := entry
    have later := fun entry inside => kept entry (List.mem_cons_of_mem _ inside)
    cases set : valueOf? environment name with
    | none =>
      rw [readVariables, set] at done
      exact hypothesis later begun done
    | some given =>
      cases known : read name given with
      | error cause =>
        rw [readVariables, set] at done
        simp only [known] at done
        cases done
      | ok value =>
        rw [readVariables, set] at done
        simp only [known] at done
        exact hypothesis later (kept _ List.mem_cons_self _ _ _ set known begun) done

theorem isWhole_of_readWhole {name : String} {given value : Value} (done : readWhole name given = .ok value) :
    value.IsWhole := by
  unfold readWhole at done
  split at done
  · exact ⟨_, (Except.ok.inj done).symm⟩
  · cases done

theorem isReal_of_readNumber {name : String} {given value : Value}
    (done : readNumber name given = .ok value) : value.IsReal := by
  unfold readNumber at done
  split at done
  · exact ⟨_, (Except.ok.inj done).symm⟩
  · cases done
  · cases done

/-- The variables of a process hold texts. -/
theorem exists_text_of_valueOf? {texts : List (String × String)} {name : String} {given : Value}
    (set : valueOf? (environmentOf texts) name = some given) : ∃ text, given = .text text := by
  have found : (environmentOf texts).lookup name = some given := by
    unfold valueOf? at set
    split at set
    · split at set
      · rwa [← Option.some.inj set]
      · cases set
    · cases set
  obtain ⟨before, after, same, -⟩ := List.lookup_eq_some_iff.1 found
  have inside : (name, given) ∈ environmentOf texts := by simp [same]
  obtain ⟨⟨_, text⟩, -, entry⟩ := List.mem_map.1 inside
  exact ⟨text, (congrArg Prod.snd entry).symm⟩

/-- The default settings are of the kinds that they should have. -/
theorem plain_default : Plain {} where
  minSize := ⟨1, rfl⟩
  maxSize := ⟨5, rfl⟩
  batchSize := ⟨2, rfl⟩
  probability := ⟨_, rfl⟩
  attempts := ⟨50, rfl⟩
  isolation := ⟨_, rfl⟩
  orders := ⟨24, rfl⟩
  blockTimeout := ⟨_, rfl⟩
  statementTimeout := ⟨_, rfl⟩

/-- A whole number in place of a setting that should be one keeps the kinds. -/
theorem Plain.whole {before : Settings} {value : Value} (plain : before.Plain) (whole : value.IsWhole) :
    ∀ entry ∈ wholeVariables, (entry.2 value before).Plain := by
  simp only [wholeVariables, List.forall_mem_cons, List.not_mem_nil, false_implies, implies_true, and_true]
  exact ⟨{ plain with minSize := whole }, { plain with maxSize := whole },
    { plain with batchSize := whole }, { plain with attempts := whole }, { plain with orders := whole },
    { plain with }, { plain with }, { plain with }, { plain with }, { plain with }⟩

/-- So does a binary number. -/
theorem Plain.real {before : Settings} {value : Value} (plain : before.Plain) (real : value.IsReal) :
    ∀ entry ∈ numberVariables, (entry.2 value before).Plain := by
  simp only [numberVariables, List.forall_mem_cons, List.not_mem_nil, false_implies, implies_true, and_true]
  exact ⟨{ plain with probability := real }, { plain with blockTimeout := real },
    { plain with statementTimeout := real }⟩

/-- So does a text. -/
theorem Plain.text {before : Settings} {value : Value} (plain : before.Plain)
    (text : ∃ name, value = .text name) : ∀ entry ∈ textVariables, (entry.2 value before).Plain := by
  simp only [textVariables, List.forall_mem_cons, List.not_mem_nil, false_implies, implies_true, and_true]
  exact ⟨{ plain with }, { plain with isolation := text }, { plain with }, { plain with }⟩

/-- Settings that are read from texts are of the kinds that they should have. -/
theorem plain_of_ofEnvironment {texts : List (String × String)}
    (done : ofEnvironment (environmentOf texts) = .ok settings) : settings.Plain := by
  obtain ⟨whole, first, done⟩ := exists_of_bind done
  obtain ⟨numbers, second, done⟩ := exists_of_bind done
  obtain ⟨named, third, done⟩ := exists_of_bind done
  have plain : named.Plain := by
    refine readVariables_induct ?_ (readVariables_induct ?_ (readVariables_induct ?_ plain_default first)
      second) third
    · intro entry inside given value before set known plain
      obtain ⟨text, rfl⟩ := exists_text_of_valueOf? set
      exact plain.text ⟨text, (Except.ok.inj known).symm⟩ entry inside
    · intro entry inside given value before _ known plain
      exact plain.real (isReal_of_readNumber known) entry inside
    · intro entry inside given value before _ known plain
      exact plain.whole (isWhole_of_readWhole known) entry inside
  split at done
  · cases done
    exact plain
  · obtain ⟨disabled, _, done⟩ := exists_of_bind done
    cases done
    exact { plain with }

/-- Settings with whole numbers, binary numbers and an isolation level that is a text, as they are read from
texts, are accepted exactly if they are in range and the timeouts are positive and ascending, or a timeout
that is not a number stands in the way of telling. All others are refused, because a setting is out of its
range. So it is exactly the settings in range with ascending timeouts that are accepted if the timeouts are
numbers. -/
theorem validate_iff_inRange (plain : settings.Plain) :
    (settings.validate = .ok settings ↔ settings.InRange ∧ (settings.Ascends ∨ settings.Unordered)) ∧
      (settings.validate ≠ .ok settings →
        ∃ cause, settings.validate = .error cause ∧ cause.isOfRange = true) ∧
      (settings.blockTimeout ≠ .real .nan → settings.statementTimeout ≠ .real .nan →
        (settings.validate = .ok settings ↔ settings.InRange ∧ settings.Ascends)) := by
  have admits := plain.admits_validate
  have accepted : settings.validate = .ok settings ↔
      settings.InRange ∧ (settings.Ascends ∨ settings.Unordered) := by
    refine ⟨fun valid => ?_, admits.passes⟩
    by_contra unfit
    obtain ⟨cause, refused, -⟩ := admits.refuses unfit
    rw [valid] at refused
    cases refused
  refine ⟨accepted, fun refused => admits.refuses (mt accepted.2 refused), fun block statement => ?_⟩
  have ordered : ¬settings.Unordered := by simp [Unordered, block, statement]
  rw [accepted]
  simp only [ordered, or_false]

/-- Apart from the timeouts the default settings are in range. -/
theorem inRange_default (block statement : Value) :
    InRange { blockTimeout := block, statementTimeout := statement } where
  natural := ⟨_, rfl, _, rfl, ExtendedRational.coe_le (by norm_num)⟩
  ordered := ⟨_, rfl, _, rfl, ExtendedRational.coe_le (by norm_num)⟩
  batch := ⟨_, rfl, _, rfl, ExtendedRational.coe_le (by norm_num)⟩
  possible := ⟨_, rfl, _, rfl, ExtendedRational.coe_le (by norm_num)⟩
  certain := ⟨_, rfl, _, rfl, ExtendedRational.coe_le (by norm_num)⟩
  attempts := ⟨_, rfl, _, rfl, ExtendedRational.coe_le (by norm_num)⟩
  enabled := ⟨.insert, by decide, List.not_mem_nil⟩
  disabled := nofun
  isolation := ⟨_, rfl, by decide⟩
  orders := ⟨_, rfl, _, rfl, ExtendedRational.coe_le (by norm_num)⟩

/-- A blocked statement may be waited for without an end. -/
theorem validate_endless :
    ofEnvironment (environmentOf [("TXORACLE_STATEMENT_TIMEOUT", "inf")]) =
        .ok { statementTimeout := .real (.infinite false) } ∧
      validate { statementTimeout := .real (.infinite false) } =
        .ok { statementTimeout := .real (.infinite false) } := by
  have read : ofEnvironment (environmentOf [("TXORACLE_STATEMENT_TIMEOUT", "inf")]) =
      .ok { statementTimeout := .real (.infinite false) } := by rfl
  refine ⟨read, (validate_iff_inRange (plain_of_ofEnvironment read)).1.2
    ⟨inRange_default _ _, .inl ⟨⟨_, rfl, _, rfl, ?_⟩, ⟨_, rfl, _, rfl, ?_⟩⟩⟩⟩
  · exact ExtendedRational.coe_lt (by norm_num)
  · exact ExtendedRational.coe_lt_top _

/-- A timeout that is not a number is accepted, although it is not above zero. -/
theorem validate_nan :
    ofEnvironment (environmentOf [("TXORACLE_BLOCK_TIMEOUT", "nan")]) = .ok { blockTimeout := .real .nan } ∧
      validate { blockTimeout := .real .nan } = .ok { blockTimeout := .real .nan } ∧
      ¬Ascends { blockTimeout := .real .nan } := by
  have read : ofEnvironment (environmentOf [("TXORACLE_BLOCK_TIMEOUT", "nan")]) =
      .ok { blockTimeout := .real .nan } := by rfl
  have plain := plain_of_ofEnvironment read
  refine ⟨read, plain.admits_validate.passes ⟨inRange_default _ _, .inr (.inl rfl)⟩, ?_⟩
  rintro ⟨⟨first, -, second, held, -⟩, -⟩
  cases held

end Settings

end SerialCheck

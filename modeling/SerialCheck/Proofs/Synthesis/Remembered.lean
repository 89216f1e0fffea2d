import SerialCheck.Proofs.Generated.Beginning

/-!
# What the generators remember

A number or a text that was drawn is drawn again now and then, so a constant may stem from any choice that
was made before. Whatever these choices were, the numbers that are remembered are from one range and the
texts are short words (`Randomness.Evolved.tame`). What a choice gives after every history of choices is stated
by `Draw.Yields` and `Attempt.Yields`; the history goes on with it.
-/
namespace SerialCheck

/-- The text is a word of at most five letters from `a` to `z`. -/
def IsShortWord (text : String) : Prop :=
  text.toList.length ≤ 5 ∧ ∀ letter ∈ text.toList, 'a' ≤ letter ∧ letter ≤ 'z'

/-- The number is one of those that are drawn. -/
def IsDrawnNumber (number : Int) : Prop := -10 ≤ number ∧ number < 100

/-- The randomness is what random calls of the generators have made of a new one, over any source. The
calls that remember nothing are free in what they read. -/
inductive Randomness.Evolved : Randomness → Prop
  /-- It is new. -/
  | start (seed : Value) (source : Source) : Evolved { seed, source }
  /-- A call of which nothing is remembered has read from its source. -/
  | read {randomness : Randomness} (evolved : Evolved randomness) (source : Source) :
    Evolved { randomness with source }
  /-- A number was drawn. -/
  | number {randomness : Randomness} (evolved : Evolved randomness) :
    Evolved (Draw.number Constant.minNumber Constant.numberBound randomness).2
  /-- A text was drawn. -/
  | text {randomness : Randomness} (evolved : Evolved randomness) :
    Evolved (Draw.text Constant.maxTextLength randomness).2

namespace Draw

variable {α β : Type}

/-- A sequence goes on with what its first part gives, where that part ended. -/
theorem bind_apply (draw : Draw α) (next : α → Draw β) (randomness : Randomness) :
    (draw >>= next) randomness = next (draw randomness).1 (draw randomness).2 := rfl

/-- What was chosen so far is there to be looked at. -/
theorem get_bind_apply (next : Randomness → Draw α) (randomness : Randomness) :
    ((get : Draw Randomness) >>= next) randomness = next randomness randomness := rfl

/-! ## Choices that remember nothing -/

/-- The choice reads from the source and changes nothing else. -/
def Reads (draw : Draw α) : Prop := ∀ randomness, ∃ source, (draw randomness).2 = { randomness with source }

theorem reads_pure (value : α) : Reads (pure value) := fun randomness => ⟨randomness.source, rfl⟩

theorem reads_fromSource (draw : Source → α × Source) : Reads (fromSource draw) := fun _ => ⟨_, rfl⟩

theorem Reads.bind {draw : Draw α} {next : α → Draw β} (first : Reads draw)
    (second : ∀ value, Reads (next value)) : Reads (draw >>= next) := by
  intro randomness
  obtain ⟨between, read⟩ := first randomness
  obtain ⟨after, ended⟩ := second (draw randomness).1 (draw randomness).2
  refine ⟨after, ?_⟩
  rw [bind_apply, ended, read]

theorem Reads.ite {test : Prop} [Decidable test] {one other : Draw α} (first : Reads one)
    (second : Reads other) : Reads (if test then one else other) := by
  split
  · exact first
  · exact second

theorem reads_chance (probability : Binary64) : Reads (chance probability) :=
  (reads_fromSource _).bind fun _ => reads_pure _

theorem reads_fresh (lower upper : Int) : Reads (fresh lower upper) :=
  Reads.ite (reads_pure _) ((reads_fromSource _).bind fun _ => reads_pure _)

theorem reads_oneOf (first : α) (others : List α) : Reads (oneOf first others) :=
  (reads_fromSource _).bind fun _ => reads_pure _

theorem reads_knownMember? (members : List α) : Reads (knownMember? members) := by
  cases members with
  | nil => exact reads_pure _
  | cons first others =>
    exact (reads_chance _).bind fun known =>
      Reads.ite ((reads_oneOf _ _).bind fun _ => reads_pure _) (reads_pure _)

theorem reads_word (length : Nat) : Reads (word length) := by
  induction length with
  | zero => exact reads_pure _
  | succ length hypothesis => exact (reads_oneOf _ _).bind fun _ => hypothesis.bind fun _ => reads_pure _

/-! ## What is remembered -/

/-- What a memory holds was held before or has just been remembered. -/
theorem mem_remember {memory : List α} {value known : α} (held : known ∈ remember memory value) :
    known ∈ memory ∨ known = value := by
  rcases List.mem_append.1 held with old | new
  · left
    split at old
    · exact old
    · exact List.mem_of_mem_drop old
  · exact .inr (List.mem_singleton.1 new)

/-- A member that is known is one of the memory. -/
theorem mem_of_knownMember? {members : List α} {randomness : Randomness} {value : α}
    (known : (knownMember? members randomness).1 = some value) : value ∈ members := by
  cases members with
  | nil => cases known
  | cons first others =>
    rw [knownMember?, bind_apply] at known
    generalize coin randomness = fallen at known
    obtain ⟨side, later⟩ := fallen
    cases side with
    | false => cases known
    | true =>
      have drawn := oneOf_mem first others later
      have same : (oneOf first others later).1 = value := Option.some.inj known
      rwa [same] at drawn

/-- One of the remembered values, or one that is made. -/
def knownOr (memory : List α) (make : Draw α) : Draw α := do
  match ← knownMember? memory with
  | some value => return value
  | none => make

/-- A new number of the range, which is remembered. -/
def makeNumber (lower upper : Int) : Draw Int := do
  let value ← fresh lower upper
  modify fun randomness => { randomness with numbers := remember randomness.numbers value }
  return value

/-- A new text of at most the given length, which is remembered. -/
def makeText (maxLength : Int) : Draw String := do
  let length ← fresh 0 (maxLength + 1)
  let value := String.ofList (← word length.toNat)
  modify fun randomness => { randomness with texts := remember randomness.texts value }
  return value

/-- A number is recalled or made. -/
theorem number_eq (lower upper : Int) (randomness : Randomness) :
    number lower upper randomness = knownOr randomness.numbers (makeNumber lower upper) randomness := by
  rw [number, knownOr, get_bind_apply, bind_apply, bind_apply]
  cases (knownMember? randomness.numbers randomness).1 <;> rfl

/-- So is a text. -/
theorem text_eq (maxLength : Int) (randomness : Randomness) :
    text maxLength randomness = knownOr randomness.texts (makeText maxLength) randomness := by
  rw [text, knownOr, get_bind_apply, bind_apply, bind_apply]
  cases (knownMember? randomness.texts randomness).1 <;> rfl

/-- What is recalled is a member of the memory, which is only read; else a value is made. -/
theorem knownOr_cases (memory : List α) (make : Draw α) (randomness : Randomness) :
    ∃ source, ((knownOr memory make randomness).1 ∈ memory ∧
        (knownOr memory make randomness).2 = { randomness with source }) ∨
      knownOr memory make randomness = make { randomness with source } := by
  obtain ⟨source, read⟩ := reads_knownMember? memory randomness
  have listed := @mem_of_knownMember? _ memory randomness
  refine ⟨source, ?_⟩
  rw [knownOr, bind_apply, read]
  cases known : (knownMember? memory randomness).1 with
  | some value => exact .inl ⟨listed known, rfl⟩
  | none => exact .inr rfl

/-- A number that is made is one of the range and is remembered. -/
theorem makeNumber_apply {lower upper : Int} (some_between : lower < upper) (randomness : Randomness) :
    ∃ value source, (lower ≤ value ∧ value < upper) ∧ makeNumber lower upper randomness =
      (value, { randomness with source, numbers := remember randomness.numbers value }) := by
  obtain ⟨source, read⟩ := reads_fresh lower upper randomness
  have bounds := fresh_bounds some_between randomness
  refine ⟨(fresh lower upper randomness).1, source, bounds, ?_⟩
  rw [makeNumber, bind_apply, read]
  rfl

/-- The letters that are drawn are those from `a` to `z`. -/
theorem letter_bounds : ∀ letter ∈ 'a' :: letters, 'a' ≤ letter ∧ letter ≤ 'z' := by
  have codes : ('a' :: letters).all (fun letter => 97 ≤ letter.toNat ∧ letter.toNat ≤ 122) = true := by decide
  intro letter member
  exact of_decide_eq_true (List.all_eq_true.1 codes letter member)

/-- A word that is drawn has the given length and consists of letters. -/
theorem word_letters (length : Nat) (randomness : Randomness) :
    (word length randomness).1.length = length ∧
      ∀ letter ∈ (word length randomness).1, 'a' ≤ letter ∧ letter ≤ 'z' := by
  induction length generalizing randomness with
  | zero => exact ⟨rfl, fun _ inside => absurd inside List.not_mem_nil⟩
  | succ length hypothesis =>
    have first := letter_bounds _ (oneOf_mem 'a' letters randomness)
    obtain ⟨many, others⟩ := hypothesis (oneOf 'a' letters randomness).2
    rw [word, bind_apply, bind_apply]
    constructor
    · exact congrArg Nat.succ many
    · exact List.forall_mem_cons.2 ⟨first, others⟩

/-- A text that is made is a short word and is remembered. -/
theorem makeText_apply (randomness : Randomness) :
    ∃ value source, IsShortWord value ∧ makeText Constant.maxTextLength randomness =
      (value, { randomness with source, texts := remember randomness.texts value }) := by
  have bounds : 0 ≤ (fresh 0 (Constant.maxTextLength + 1) randomness).1 ∧
      (fresh 0 (Constant.maxTextLength + 1) randomness).1 < 6 := fresh_bounds (by decide) randomness
  obtain ⟨between, counted⟩ := reads_fresh 0 (Constant.maxTextLength + 1) randomness
  rw [makeText, bind_apply, counted]
  generalize (fresh 0 (Constant.maxTextLength + 1) randomness).1 = length at bounds
  obtain ⟨many, drawn⟩ := word_letters length.toNat { randomness with source := between }
  obtain ⟨source, read⟩ := reads_word length.toNat { randomness with source := between }
  rw [bind_apply, read]
  refine ⟨_, source, ⟨?_, ?_⟩, rfl⟩
  · rw [String.toList_ofList, many]
    omega
  · rw [String.toList_ofList]
    exact drawn

end Draw

namespace Randomness

variable {randomness : Randomness}

/-- What is remembered are numbers of one range and short words. -/
structure Tame (randomness : Randomness) : Prop where
  /-- The numbers are from the range of those that are drawn. -/
  numbers : ∀ number ∈ randomness.numbers, IsDrawnNumber number
  /-- The texts are short words. -/
  texts : ∀ text ∈ randomness.texts, IsShortWord text

namespace Tame

/-- A source that has been read is no matter. -/
theorem read (tame : randomness.Tame) (source : Source) : Tame { randomness with source } :=
  ⟨tame.numbers, tame.texts⟩

/-- A number that is drawn is from the range, whether it is known or new. -/
theorem number (tame : randomness.Tame) :
    IsDrawnNumber (Draw.number Constant.minNumber Constant.numberBound randomness).1 ∧
      Tame (Draw.number Constant.minNumber Constant.numberBound randomness).2 := by
  rw [Draw.number_eq]
  obtain ⟨source, ⟨known, same⟩ | made⟩ := Draw.knownOr_cases randomness.numbers
    (Draw.makeNumber Constant.minNumber Constant.numberBound) randomness
  · rw [same]
    exact ⟨tame.numbers _ known, tame.read source⟩
  · have range : Constant.minNumber < Constant.numberBound := by decide
    obtain ⟨value, later, bounds, stored⟩ := Draw.makeNumber_apply range { randomness with source }
    rw [made, stored]
    refine ⟨bounds, fun number held => ?_, tame.texts⟩
    rcases Draw.mem_remember held with old | rfl
    · exact tame.numbers number old
    · exact bounds

/-- A text that is drawn is a short word, whether it is known or new. -/
theorem text (tame : randomness.Tame) :
    IsShortWord (Draw.text Constant.maxTextLength randomness).1 ∧
      Tame (Draw.text Constant.maxTextLength randomness).2 := by
  rw [Draw.text_eq]
  obtain ⟨source, ⟨known, same⟩ | made⟩ := Draw.knownOr_cases randomness.texts
    (Draw.makeText Constant.maxTextLength) randomness
  · rw [same]
    exact ⟨tame.texts _ known, tame.read source⟩
  · obtain ⟨value, later, short, stored⟩ := Draw.makeText_apply { randomness with source }
    rw [made, stored]
    refine ⟨short, tame.numbers, fun text held => ?_⟩
    rcases Draw.mem_remember held with old | rfl
    · exact tame.texts text old
    · exact short

end Tame

/-- Whatever was called, only such numbers and texts are remembered. -/
theorem Evolved.tame (evolved : randomness.Evolved) : randomness.Tame := by
  induction evolved with
  | start seed source =>
    exact ⟨fun _ held => absurd held List.not_mem_nil, fun _ held => absurd held List.not_mem_nil⟩
  | read evolved source hypothesis => exact hypothesis.read source
  | number evolved hypothesis => exact hypothesis.number.2
  | text evolved hypothesis => exact hypothesis.text.2

end Randomness

/-! ## What a choice gives after any history -/

namespace Draw

variable {α β : Type} {good : α → Prop} {fit : β → Prop}

/-- After every history of calls the choice gives something good, and it goes on with the history. -/
def Yields (draw : Draw α) (good : α → Prop) : Prop :=
  ∀ randomness, randomness.Evolved → good (draw randomness).1 ∧ (draw randomness).2.Evolved

theorem yields_pure {value : α} (met : good value) : Yields (pure value) good :=
  fun _ evolved => ⟨met, evolved⟩

/-- A sequence yields what its second part does for every result of its first part. -/
theorem Yields.bind {draw : Draw α} {next : α → Draw β} (first : Yields draw good)
    (second : ∀ value, good value → Yields (next value) fit) : Yields (draw >>= next) fit := by
  intro randomness evolved
  obtain ⟨met, between⟩ := first randomness evolved
  rw [bind_apply]
  exact second _ met _ between

theorem Yields.mono {draw : Draw α} {other : α → Prop} (yields : Yields draw good)
    (follows : ∀ value, good value → other value) : Yields draw other := by
  intro randomness evolved
  obtain ⟨met, after⟩ := yields randomness evolved
  exact ⟨follows _ met, after⟩

theorem yields_ite {test : Prop} [Decidable test] {one other : Draw α} (first : Yields one good)
    (second : Yields other good) : Yields (if test then one else other) good := by
  split
  · exact first
  · exact second

/-- A choice that only reads goes on with every history. -/
theorem Reads.yields {draw : Draw α} (reads : Reads draw) (gives : ∀ randomness, good (draw randomness).1) :
    Yields draw good := by
  intro randomness evolved
  obtain ⟨source, read⟩ := reads randomness
  have after : (draw randomness).2.Evolved := by
    rw [read]
    exact evolved.read source
  exact ⟨gives randomness, after⟩

theorem yields_chance (probability : Binary64) : Yields (chance probability) fun _ => True :=
  (reads_chance probability).yields fun _ => trivial

/-- One of the given values is one of them. -/
theorem yields_oneOf (first : α) (others : List α) : Yields (oneOf first others) (· ∈ first :: others) :=
  (reads_oneOf first others).yields (oneOf_mem first others)

/-- A number of a range with members is one of them. -/
theorem yields_fresh {lower upper : Int} (some_between : lower < upper) :
    Yields (fresh lower upper) fun number => lower ≤ number ∧ number < upper :=
  (reads_fresh lower upper).yields (fresh_bounds some_between)

theorem yields_number : Yields (number Constant.minNumber Constant.numberBound) IsDrawnNumber :=
  fun _ evolved => ⟨evolved.tame.number.1, evolved.number⟩

theorem yields_text : Yields (text Constant.maxTextLength) IsShortWord :=
  fun _ evolved => ⟨evolved.tame.text.1, evolved.text⟩

end Draw

namespace Attempt

variable {α β : Type} {good : α → Prop} {fit : β → Prop}

/-- After every history of calls the choice does not fail, gives something good and goes on with the
history. -/
def Yields (choice : Attempt α) (good : α → Prop) : Prop :=
  ∀ randomness, randomness.Evolved →
    ∃ value after, choice.run randomness = (.ok value, after) ∧ good value ∧ after.Evolved

theorem yields_pure {value : α} (met : good value) : Yields (pure value) good :=
  fun randomness evolved => ⟨value, randomness, rfl, met, evolved⟩

theorem yields_draw {draw : Draw α} (yields : draw.Yields good) : Yields (liftM draw) good := by
  intro randomness evolved
  obtain ⟨met, after⟩ := yields randomness evolved
  exact ⟨_, _, rfl, met, after⟩

/-- A sequence yields what its second part does for every result of its first part. -/
theorem Yields.bind {choice : Attempt α} {next : α → Attempt β} (first : Yields choice good)
    (second : ∀ value, good value → Yields (next value) fit) : Yields (choice >>= next) fit := by
  intro randomness evolved
  obtain ⟨value, between, ended, met, later⟩ := first randomness evolved
  obtain ⟨result, after, last, fitting, history⟩ := second value met between later
  refine ⟨result, after, ?_, fitting, history⟩
  have goes : (choice >>= next).run randomness = (next value).run between := by
    change (ExceptT.bind choice next).run randomness = _
    simp only [ExceptT.bind, ExceptT.run, ExceptT.mk, Bind.bind, StateT.bind] at ended ⊢
    rw [ended]
    rfl
  rw [goes, last]

theorem Yields.mono {choice : Attempt α} {other : α → Prop} (yields : Yields choice good)
    (follows : ∀ value, good value → other value) : Yields choice other := by
  intro randomness evolved
  obtain ⟨value, after, ended, met, history⟩ := yields randomness evolved
  exact ⟨value, after, ended, follows value met, history⟩

theorem yields_ite {test : Prop} [Decidable test] {one other : Attempt α} (first : Yields one good)
    (second : Yields other good) : Yields (if test then one else other) good := by
  split
  · exact first
  · exact second

/-- One member of a list is chosen if there is one. -/
theorem yields_member {members : List α} (some_there : members ≠ []) :
    Yields (member members) (· ∈ members) := by
  cases members with
  | nil => exact absurd rfl some_there
  | cons first others => exact yields_draw (Draw.yields_oneOf first others)

end Attempt

end SerialCheck

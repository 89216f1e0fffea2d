import SerialCheck.Proofs.Engine.Proper
import SerialCheck.Proofs.Generated.Slots
import SerialCheck.Proofs.Generated.Sure
import SerialCheck.Proofs.Sessions

/-!
# How a transaction begins

Before its data statements are drawn, a transaction gets their number, a number of its own and a session.
With settings that are accepted (`Settings.Accepted`) the first is in their range, the second is above all
that were handed out before, and the session is refused or new and open
(`Generation.exists_numbers`, `Generation.HandedOut.lt`, `Bench.openSession_ends`). The opening and the closing
statement are always drawn.
-/
namespace SerialCheck

open SerialCheck.Task

/-! ## Accepted settings -/

namespace Settings

/-- The settings are of the declared kinds and in range. -/
structure Accepted (settings : Settings) : Prop where
  /-- They are in range. -/
  valid : settings.validate = .ok settings
  /-- The least number of data statements is a whole number. -/
  minSize : settings.minSize.IsWhole
  /-- So is the greatest one. -/
  maxSize : settings.maxSize.IsWhole
  /-- So is the number of attempts. -/
  attempts : settings.generationAttempts.IsWhole
  /-- The probability of a rollback is a binary number or a whole one. -/
  probability : (∃ number, settings.rollbackProbability = .real number) ∨
    settings.rollbackProbability.IsWhole
  /-- The error of a table that changes is a text. -/
  pattern : ∃ pattern, settings.schemaChangedError = .text pattern
  /-- So is the address of the database. -/
  address : ∃ address, settings.connection = .text address
  /-- The statement that sets a lock timeout can be written. -/
  lockTimeout : settings.lockTimeout.isFilled = true →
    ∃ text, Session.lockTimeoutText settings.lockTimeout = .ok text

variable {settings : Settings}

/-- Settings are not refused if the test is false. -/
theorem refuseIf_ok {test : Except Misuse Bool} {reason : SettingsError} {given : Unit}
    (fine : refuseIf test reason = .ok given) : test = .ok false := by
  cases test with
  | error cause => cases fine
  | ok holds =>
    cases holds with
    | true => cases fine
    | false => rfl

/-- If neither test is true, both are false. -/
theorem either_false {first second : Except Misuse Bool} (neither : either first second = .ok false) :
    first = .ok false ∧ second = .ok false := by
  unfold either at neither
  split at neither
  · exact ⟨rfl, neither⟩
  next mixed => exact absurd neither mixed

/-- A check that is passed is followed by the next ones. -/
theorem passed {check : Except SettingsError Unit} {next : Except SettingsError Settings} {other : Settings}
    (valid : (do check; next) = .ok other) : check = .ok () ∧ next = .ok other := by
  cases check with
  | error cause => cases valid
  | ok => exact ⟨rfl, valid⟩

/-- Settings in range have passed every check and are accepted as they are. -/
theorem checks_of_validate {other : Settings} (valid : settings.validate = .ok other) :
    (settings.checkSizes = .ok () ∧ settings.checkAttempts = .ok () ∧ settings.checkKinds = .ok () ∧
      settings.checkIsolation = .ok ()) ∧ other = settings := by
  obtain ⟨sizes, valid⟩ := passed valid
  obtain ⟨_, valid⟩ := passed valid
  obtain ⟨_, valid⟩ := passed valid
  obtain ⟨attempts, valid⟩ := passed valid
  obtain ⟨kinds, valid⟩ := passed valid
  obtain ⟨isolation, valid⟩ := passed valid
  obtain ⟨_, valid⟩ := passed valid
  obtain ⟨_, valid⟩ := passed valid
  exact ⟨⟨sizes, attempts, kinds, isolation⟩, (Except.ok.inj valid).symm⟩

/-- Settings that are accepted at all are accepted as they are. -/
theorem validate_of_isSome (valid : settings.validate.toOption.isSome = true) :
    settings.validate = .ok settings := by
  cases checked : settings.validate with
  | error cause =>
    rw [checked] at valid
    cases valid
  | ok other => rw [(checks_of_validate checked).2]

namespace Accepted

variable (accepted : settings.Accepted)

include accepted

/-- The numbers of data statements are a range of natural numbers. -/
theorem sizes : ∃ least greatest : Nat, settings.minSize = .integer least ∧
    settings.maxSize = .integer greatest ∧ least ≤ greatest := by
  obtain ⟨least, first⟩ := accepted.minSize
  obtain ⟨greatest, last⟩ := accepted.maxSize
  have checked := (checks_of_validate accepted.valid).1.1
  rw [checkSizes, first, last] at checked
  obtain ⟨natural, ordered⟩ := either_false (refuseIf_ok checked)
  rw [Value.isBelow_integer] at natural ordered
  simp only [Except.ok.injEq, decide_eq_false_iff_not] at natural ordered
  refine ⟨least.toNat, greatest.toNat, ?_, ?_, ?_⟩
  · rw [first, Int.toNat_of_nonneg (by omega)]
  · rw [last, Int.toNat_of_nonneg (by omega)]
  · omega

/-- At least one attempt is allowed. -/
theorem allowed : ∃ limit : Nat, settings.generationAttempts = .integer limit ∧ 1 ≤ limit := by
  obtain ⟨limit, given⟩ := accepted.attempts
  have checked := (checks_of_validate accepted.valid).1.2.1
  rw [checkAttempts, given] at checked
  have positive := refuseIf_ok checked
  rw [Value.isBelow_integer] at positive
  simp only [Except.ok.injEq, decide_eq_false_iff_not] at positive
  refine ⟨limit.toNat, ?_, by omega⟩
  rw [given, Int.toNat_of_nonneg (by omega)]

/-- Some kind of data statement is enabled. -/
theorem enabled : settings.enabled ≠ [] := by
  have checked := (checks_of_validate accepted.valid).1.2.2.1
  rw [checkKinds] at checked
  split at checked
  · cases checked
  next some_left => simpa using some_left

/-- The isolation level is a text. -/
theorem level : ∃ level, settings.isolationLevel = .text level := by
  have checked := refuseIf_ok (checks_of_validate accepted.valid).1.2.2.2
  cases named : settings.isolationLevel with
  | text level => exact ⟨level, rfl⟩
  | bytes value =>
    rw [named] at checked
    cases checked
  | _ =>
    rw [named] at checked
    cases checked

end Accepted

end Settings

/-- Drawn over readable tables, statements are drafted where the settings are accepted. -/
theorem Bench.willing_of_accepted {bench : Bench} (accepted : bench.settings.Accepted)
    (grammar : bench.synthesizer = .grammar) (readable : bench.schema.Readable) : bench.Willing where
  grammar := grammar
  can :=
    { size := accepted.minSize
      attempts := accepted.attempts
      probability := accepted.probability
      level := accepted.level
      pattern := accepted.pattern
      readable := readable
      counts := by rw [grammar]; trivial }
  enabled := accepted.enabled

/-! ## Numbers of transactions -/

namespace Generation

/-- The numbers that were handed out to transactions so far, the latest one first: each was the next one, and
nothing else moves the count on. -/
inductive HandedOut : List Nat → Bench → Prop
  /-- None was. -/
  | none (bench : Bench) : HandedOut [] bench
  /-- A number is handed out. -/
  | next {ids : List Nat} {bench after : Bench} {id : Int} (history : HandedOut ids bench)
    (numbered : nextId.Returns bench id after) : HandedOut (bench.nextTransaction :: ids) after
  /-- Other work goes on. -/
  | other {ids : List Nat} {bench after : Bench} (history : HandedOut ids bench)
    (same : after.nextTransaction = bench.nextTransaction) : HandedOut ids after

theorem nextId_returns {bench after : Bench} {id : Int} :
    nextId.Returns bench id after ↔
      id = bench.nextTransaction ∧ after = { bench with nextTransaction := bench.nextTransaction + 1 } := by
  simp only [nextId, returns_bind, returns_get, returns_modify, returns_pure]
  constructor
  · rintro ⟨_, _, ⟨rfl, rfl⟩, _, _, rfl, rfl, rfl⟩
    exact ⟨rfl, rfl⟩
  · rintro ⟨rfl, rfl⟩
    exact ⟨_, _, ⟨rfl, rfl⟩, (), _, rfl, rfl, rfl⟩

/-- Numbers that were handed out are below the next one. -/
theorem HandedOut.lt {ids : List Nat} {bench : Bench} (history : HandedOut ids bench) :
    ∀ id ∈ ids, id < bench.nextTransaction := by
  induction history with
  | none => simp
  | next _ numbered hypothesis =>
    obtain ⟨_, rfl⟩ := nextId_returns.1 numbered
    intro id inside
    show id < _ + 1
    rcases List.mem_cons.1 inside with rfl | earlier
    · exact Nat.lt_succ_self _
    · exact Nat.lt_succ_of_lt (hypothesis id earlier)
  | other _ same hypothesis =>
    rw [same]
    exact hypothesis

/-! ## Sizes -/

end Generation

/-- A number that is drawn below a positive bound is below it. -/
theorem Draw.below_lt {bound : Nat} (positive : 0 < bound) (randomness : Randomness) :
    (Draw.below bound randomness).1 < bound := Source.below_lt positive randomness.source

/-- A number that is drawn from a range with members is one of them. -/
theorem Draw.fresh_bounds {lower upper : Int} (some_between : lower < upper) (randomness : Randomness) :
    lower ≤ (Draw.fresh lower upper randomness).1 ∧ (Draw.fresh lower upper randomness).1 < upper := by
  have drawn : (Draw.fresh lower upper randomness).1 =
      lower + ((Draw.below (upper - lower).toNat randomness).1 : Int) := by
    rw [Draw.fresh, if_neg (Int.not_le.2 some_between)]
    rfl
  have positive : 0 < (upper - lower).toNat := by omega
  have below := Draw.below_lt positive randomness
  rw [drawn]
  omega

namespace Value

theorem isAtMost_integer (left right : Int) :
    (Value.integer left).isAtMost (.integer right) = .ok (decide (left ≤ right)) := by
  simp [isAtMost, compare, compareNumbers, number?, Number.isMuddled, Number.isDecimal,
    Relation.holds, Number.le, Number.quantity?, Quantity.le, Rat.intCast_le_intCast]

theorem successor_integer (value : Int) :
    (Value.integer value).successor = .ok (.integer (value + 1)) := rfl

end Value

/-- A choice between whole numbers is a draw from their range. -/
theorem Attempt.between_integer {lower upper : Int} (some_between : lower < upper) :
    Attempt.between (.integer lower) (.integer upper) =
      (do return .integer (← (Draw.fresh lower upper : Draw Int)) : Attempt Value) := by
  have test : (Value.integer upper).isAtMost (.integer lower) = .ok false := by
    rw [Value.isAtMost_integer, decide_eq_false (by omega)]
  rw [Attempt.between, test]
  rfl

namespace Generation

/-- The number of data statements is drawn from the range of the settings. -/
theorem drawSize_returns {bench : Bench} {least greatest : Nat}
    (first : bench.settings.minSize = .integer least) (last : bench.settings.maxSize = .integer greatest)
    (ordered : least ≤ greatest) :
    ∃ (size : Nat) (sized : Bench), drawSize.Returns bench (.integer size) sized ∧
      least ≤ size ∧ size ≤ greatest ∧ bench.Redrawn sized := by
  have some_between : (least : Int) < greatest + 1 := by omega
  have drawn : drawSize bench =
      attempt (Attempt.between (.integer least) (.integer (greatest + 1))) bench := by
    have read : drawSize bench = (use bench.settings.maxSize.successor >>= fun beyond =>
        attempt (Attempt.between bench.settings.minSize beyond)) bench := rfl
    rw [read, first, last, Value.successor_integer]
    rfl
  obtain ⟨above, below⟩ := Draw.fresh_bounds some_between bench.randomness
  have gave : ((Attempt.between (.integer least) (.integer (greatest + 1))).run bench.randomness).1 =
      .ok (.integer (Draw.fresh least (greatest + 1) bench.randomness).1) := by
    rw [Attempt.between_integer some_between]
    rfl
  rw [attempt_apply] at drawn
  generalize (Attempt.between (.integer least) (.integer (greatest + 1))).run bench.randomness = outcome
    at gave drawn
  obtain ⟨outcome, randomness⟩ := outcome
  cases gave
  refine ⟨(Draw.fresh least (greatest + 1) bench.randomness).1.toNat, _, ?_, by omega, by omega,
    .of_randomness bench randomness⟩
  rw [Int.toNat_of_nonneg (by omega)]
  exact drawn

end Generation

/-! ## Sessions -/

/-- A session over a server with proper rules is refused by a fault of a session, or it is open. -/
theorem Session.connect_proper {server after : Server} (proper : server.Proper) {address label : String}
    {timeout : Value} {result : Except Fault Session}
    (writable : timeout.isFilled = true → ∃ text, lockTimeoutText timeout = .ok text)
    (ended : connect address label timeout server = (result, after)) :
    (∃ cause, result = .error (.session cause)) ∨
      ∃ session, result = .ok session ∧ session.isClosed after = false := by
  unfold connect at ended
  split at ended
  · cases ended
    exact .inl ⟨_, rfl⟩
  next number reached granted =>
    obtain ⟨_, _, rules, present, _⟩ := Server.connect_ok granted
    have still : reached.Proper := by
      rw [Server.Proper, rules]
      exact proper
    split at ended
    · cases ended
      refine .inr ⟨_, rfl, ?_⟩
      simp [isClosed, Server.isClosed, present]
    next filled =>
      obtain ⟨text, written⟩ := writable (by simpa using filled)
      obtain ⟨response, delay, told, replaced, executed, tells⟩ :=
        Server.execute_told still present text
      rw [written] at ended
      dsimp only at ended
      rw [executed] at ended
      cases response with
      | error refusal =>
        obtain ⟨kind, report, rfl, error⟩ := tells.refusal refusal rfl
        cases ended
        cases kind with
        | warning => exact absurd rfl error
        | _ => exact .inl ⟨_, rfl⟩
      | ok rows =>
        cases ended
        refine .inr ⟨_, rfl, ?_⟩
        have opened : replaced.closed = false := by
          cases lost : replaced.closed with
          | false => rfl
          | true =>
            rcases tells.closed lost with before | ⟨_, refusal, refused⟩
            · cases before
            · cases refused
        simp [isClosed, Server.isClosed, tells.changed.connection, opened]

namespace Bench

variable {bench : Bench}

/-- A session is asked for at an address that is a text. -/
theorem connect_named {address : String} (named : bench.settings.connection = .text address)
    (label : String) :
    ∃ result server journal,
      Session.connect address label bench.settings.lockTimeout bench.server = (result, server) ∧
        connect label bench = (result, { bench with server, journal }) := by
  have suffix : bench.settings.connection.suffix = .ok address := by
    rw [named]
    rfl
  rcases connect_cases label bench with
    ⟨cause, unnamed, _⟩ | ⟨other, result, server, journal, here, asked, ended⟩
  · rw [suffix] at unnamed
    cases unnamed
  · rw [suffix] at here
    cases here
    exact ⟨result, server, journal, asked, ended⟩

/-- Where the settings are accepted, asking for a session ends in a fault of a session or in a new session
that is open. -/
theorem openSession_ends (accepted : bench.settings.Accepted) (proper : bench.server.Proper) :
    ∃ after, ((∃ cause, openSession.Fails bench (.session cause) after) ∨
        ∃ session, openSession.Returns bench session after ∧
          session.connection = some (bench.server.connections.length + 1) ∧
            session.isClosed after.server = false) ∧
      after.settings = bench.settings ∧ after.schema = bench.schema ∧
        after.synthesizer = bench.synthesizer ∧ after.nextTransaction = bench.nextTransaction := by
  obtain ⟨label, asked⟩ := openSession_apply bench
  obtain ⟨address, named⟩ := accepted.address
  obtain ⟨result, server, journal, granted, ended⟩ := @connect_named
    { bench with sessionCount := bench.sessionCount + 1 } address named label
  unfold Fails Returns
  rw [asked, ended]
  refine ⟨{ bench with sessionCount := bench.sessionCount + 1, server, journal }, ?_, rfl, rfl, rfl, rfl⟩
  rcases Session.connect_proper proper accepted.lockTimeout granted with
    ⟨cause, rfl⟩ | ⟨session, rfl, opened⟩
  · exact .inl ⟨cause, rfl⟩
  · obtain ⟨rfl, _⟩ := Session.of_connect_ok granted
    exact .inr ⟨_, rfl, rfl, opened⟩

end Bench

/-! ## Statements that are always drawn -/

namespace Generation

variable {bench ready after : Bench}

/-- A choice that never fails returns. -/
theorem attempt_returns {α : Type} {choice : Attempt α} (sure : choice.Sure) (bench : Bench) :
    ∃ value after, (attempt choice).Returns bench value after := by
  rcases returns_or_fails (attempt choice) bench with returned | ⟨fault, after, failed⟩
  · exact returned
  · obtain ⟨cause, gave, _⟩ := attempt_fails failed
    obtain ⟨value, fine⟩ := sure bench.randomness
    rw [fine] at gave
    cases gave

/-- A kind whose statements never fail to be drawn. -/
theorem statement_returns (willing : bench.Willing) {kind : StatementKind}
    (sure : ∀ level, (drawStatement bench.schema (.text level) kind).Sure) {good : Query → Prop}
    (gives : ∀ level, (drawStatement bench.schema level kind).Gives good) :
    ∃ query after, (Synthesizer.statement kind).Returns bench query after ∧ bench.Redrawn after ∧
      good query := by
  obtain ⟨level, named⟩ := willing.can.level
  have drawn := statement_grammar willing.grammar kind
  rw [named] at drawn
  obtain ⟨query, after, returned⟩ := attempt_returns (sure level) bench
  exact ⟨query, after, drawn.trans returned, redrawn_attempt returned, attempt_gives (gives _) returned⟩

/-- The opening statement expects no errors by itself. -/
theorem gives_drawOpening_plain (level : Value) :
    (drawOpening level).Gives fun query => query.expected = .none := by
  refine (Attempt.gives_any _).bind fun words _ => ?_
  split
  · exact Attempt.gives_pure rfl
  · split
    · exact Attempt.gives_pure rfl
    · exact Attempt.gives_throw _ _

/-- The error of a table that changes is expected by the opening statement. -/
theorem openingOf_returns {pattern : String} (named : bench.settings.schemaChangedError = .text pattern)
    (id : Int) (query : Query) :
    (openingOf id query).Returns bench ⟨⟨.integer id, .integer 0, .begin, query.text,
      query.expected.withPatterns [pattern], []⟩, rfl⟩ bench := by
  rw [openingOf, returns_get_bind, named]
  exact returns_pure.2 ⟨rfl, rfl⟩

/-- The kind of the closing statement is always drawn. -/
theorem drawClosing_returns (willing : bench.Willing) :
    ∃ kind after, drawClosing.Returns bench kind after ∧ bench.Redrawn after := by
  obtain ⟨rollback, after, returned⟩ :=
    attempt_returns (Attempt.sure_chance willing.can.probability) bench
  refine ⟨if rollback then ⟨.rollback, rfl⟩ else ⟨.commit, rfl⟩, after, ?_, redrawn_attempt returned⟩
  rw [drawClosing, returns_get_bind]
  exact returns_bind.2 ⟨rollback, after, returned, returns_pure.2 ⟨rfl, rfl⟩⟩

/-- The closing statement is always drawn, and is what its kind is called. -/
theorem closing_returns (willing : bench.Willing) (kind : ClosingKind) :
    ∃ after, (Synthesizer.statement kind.val).Returns bench ⟨.text kind.val.name, .none, false⟩ after ∧
      bench.Redrawn after := by
  have drawn (level : Value) : drawStatement bench.schema level kind.val =
      pure ⟨.text kind.val.name, .none, false⟩ := by
    obtain ⟨kind, ends⟩ := kind
    cases kind <;> first | rfl | cases ends
  have sure (level : String) : (drawStatement bench.schema (.text level) kind.val).Sure :=
    drawn (.text level) ▸ Attempt.sure_pure _
  have gives (level : Value) : (drawStatement bench.schema level kind.val).Gives
      (· = ⟨.text kind.val.name, .none, false⟩) := drawn level ▸ Attempt.gives_pure rfl
  obtain ⟨_, after, returned, redrawn, rfl⟩ := statement_returns willing sure gives
  exact ⟨after, returned, redrawn⟩

/-! ## Up to the session -/

/-- A transaction with a number asks for its session and occupies it. -/
def proceed (id : Int) (size : Value) : Task OpenTransaction := do
  match ← Task.caught Bench.openSession with
  | .error fault => throw (faultOf id fault)
  | .ok session => occupy session id size

/-- The number of data statements is drawn and the transaction gets its number; nothing else that a
transaction is made from changes. -/
structure Numbers (bench : Bench) (size : Nat) (numbered : Bench) : Prop where
  /-- These are the steps. -/
  steps : ∃ sized, drawSize.Returns bench (.integer size) sized ∧
    nextId.Returns sized bench.nextTransaction numbered
  /-- The settings are as they were. -/
  settings : numbered.settings = bench.settings
  /-- So are the known tables. -/
  schema : numbered.schema = bench.schema
  /-- So is the way in which statements come about. -/
  synthesizer : numbered.synthesizer = bench.synthesizer
  /-- So is the server. -/
  server : numbered.server = bench.server

/-- With accepted settings the number of data statements is in their range. -/
theorem exists_numbers {bench : Bench} {least greatest : Nat}
    (first : bench.settings.minSize = .integer least) (last : bench.settings.maxSize = .integer greatest)
    (ordered : least ≤ greatest) :
    ∃ size numbered, Numbers bench size numbered ∧ least ≤ size ∧ size ≤ greatest := by
  obtain ⟨size, sized, drew, above, below, moved⟩ := drawSize_returns first last ordered
  have count : sized.nextTransaction = bench.nextTransaction :=
    congrArg (fun plan => plan.2.2) moved.beside.plan
  have numbering := nextId_returns.2 ⟨congrArg Nat.cast count.symm, rfl⟩
  refine ⟨size, _, ⟨⟨sized, drew, numbering⟩, ?_, ?_, ?_, ?_⟩, above, below⟩
  · exact moved.settings
  · exact moved.schema
  · exact moved.synthesizer
  · exact moved.beside.server

namespace Numbers

variable {bench numbered : Bench} {size : Nat} (numbers : Numbers bench size numbered)

include numbers

/-- Then the generation goes on with the session. -/
theorem transaction_eq : transaction bench = proceed bench.nextTransaction (.integer size) numbered := by
  obtain ⟨sized, drew, numbering⟩ := numbers.steps
  rw [Generation.transaction_eq, drew.bind_apply, numbering.bind_apply]
  rfl

/-- That is the session which the transaction asks for. -/
theorem asked_eq : asked bench = [(Bench.openSession numbered).1] := by
  obtain ⟨sized, drew, numbering⟩ := numbers.steps
  rw [asked, show drawSize bench = _ from drew, (nextId_returns.1 numbering).2]

/-- The number is handed out. -/
theorem handedOut {ids : List Nat} (history : HandedOut ids bench) :
    HandedOut (bench.nextTransaction :: ids) numbered := by
  obtain ⟨sized, drew, numbering⟩ := numbers.steps
  have same : sized.nextTransaction = bench.nextTransaction :=
    (Nat.cast_injective (nextId_returns.1 numbering).1).symm
  exact same ▸ .next (.other history same) numbering

end Numbers

/-- Behind its number the generation of a transaction keeps the plan. -/
theorem keeps_proceed (plan : Settings × List Query × Nat) (id : Int) (size : Value) :
    Keeps plan (proceed id size) := by
  have durable := Bench.durable_plan plan
  have closes (session : Session) : Upholds (·.plan = plan) (Bench.closeSession session) := by
    refine upholds_get_bind fun bench same => ?_
    split
    · exact upholds_pure _
    · exact (upholds_set same).bind fun _ => durable.log _ _
  have occupies (session : Session) : Upholds (·.plan = plan) (occupy session id size) := by
    refine ((drafting_plan plan).statements id size).caught.bind fun outcome => ?_
    split
    · split
      · exact (closes session).bind fun _ => upholds_throw _
      · exact upholds_throw _
    · exact (durable.log _ _).bind fun _ => upholds_pure _
  have whole : Upholds (·.plan = plan) (proceed id size) := by
    refine Upholds.bind (Upholds.caught (Bench.keeps_openSession plan)) fun outcome => ?_
    split
    · exact upholds_throw _
    · exact occupies _
  exact whole

/-- A number that is handed out stays so, whichever way the generation of the transaction ends. -/
theorem Numbers.handedOut_transaction {ids : List Nat} {bench numbered : Bench} {size : Nat}
    (numbers : Numbers bench size numbered) (history : HandedOut ids bench) :
    HandedOut (bench.nextTransaction :: ids) (transaction bench).2 := by
  have kept := keeps_proceed numbered.plan bench.nextTransaction (.integer size) numbered rfl
  refine .other (numbers.handedOut history) ?_
  rw [numbers.transaction_eq]
  exact congrArg (fun plan => plan.2.2) kept

end Generation

end SerialCheck

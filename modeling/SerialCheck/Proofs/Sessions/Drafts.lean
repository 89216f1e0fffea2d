import SerialCheck.Proofs.Generated.Batches
import SerialCheck.Proofs.Sessions.Upheld
import SerialCheck.Proofs.Setup.Catalog
import SerialCheck.Proofs.Setup.Legible

/-!
# How a draft is given up

Where the settings are of the kinds that they are made for and the known tables and columns have texts for
names, the statements of a transaction are drafted without touching the server, and a draft is given up
only by the faults after which the session of the transaction is closed (`Generation.drafts_statements`).
-/
namespace SerialCheck

namespace Attempt

variable {α β : Type}

/-- The choice fails only because there is nothing to choose, and never by the misuse of a value. -/
def Proper (choice : Attempt α) : Prop :=
  ∀ randomness cause, (choice.run randomness).1 = .error cause → ∀ misuse, cause ≠ .misuse misuse

theorem proper_pure (value : α) : Proper (pure value) := by
  intro randomness cause given
  cases given

theorem proper_throw {cause : GenerationFault} (clean : ∀ misuse, cause ≠ .misuse misuse) :
    Proper (throw cause : Attempt α) := by
  intro randomness thrown given
  cases given
  exact clean

/-- A draw does not fail. -/
theorem proper_draw (choice : Draw α) : Proper (liftM choice) := by
  intro randomness cause given
  cases given

/-- A use of a value that has a result does not fail. -/
theorem proper_use {given : Except Misuse α} {value : α} (result : given = .ok value) :
    Proper (use given) := by
  rw [result]
  exact proper_pure value

/-- A sequence is proper if its parts are, the second one after what the first one gives. -/
theorem Proper.bind {choice : Attempt α} {next : α → Attempt β} {good : α → Prop}
    (proper : Proper choice) (gives : choice.Gives good)
    (second : ∀ value, good value → Proper (next value)) : Proper (choice >>= next) := by
  intro randomness cause given
  have failed := proper randomness
  have met := gives randomness
  change ((ExceptT.bind choice next).run randomness).1 = .error cause at given
  simp only [ExceptT.bind, ExceptT.run, ExceptT.mk, Bind.bind, StateT.bind] at given failed met
  generalize choice randomness = outcome at given failed met
  obtain ⟨outcome, later⟩ := outcome
  cases outcome with
  | ok value => exact second value (met value rfl) later cause given
  | error thrown =>
    cases given
    exact failed cause rfl

/-- What follows is proper for every result. -/
theorem Proper.then {choice : Attempt α} {next : α → Attempt β} (proper : Proper choice)
    (second : ∀ value, Proper (next value)) : Proper (choice >>= next) :=
  proper.bind (gives_any choice) fun value _ => second value

theorem proper_ite {test : Prop} [Decidable test] {one other : Attempt α} (first : Proper one)
    (second : Proper other) : Proper (if test then one else other) := by
  split
  · exact first
  · exact second

theorem proper_member (members : List α) : Proper (member members) := by
  cases members with
  | nil => exact proper_throw nofun
  | cons first others => exact proper_draw _

theorem proper_subset (members : List α) : Proper (subset members) :=
  proper_ite (proper_throw nofun) ((proper_draw _).then fun _ => proper_draw _)

/-- A number from a whole lower bound on is a whole one. -/
theorem gives_between {lower : Value} (whole : lower.IsWhole) (upper : Value) :
    Gives (between lower upper) Value.IsWhole := by
  refine (gives_any _).bind fun none _ => ?_
  split
  · exact gives_pure whole
  · refine (gives_any _).bind fun least _ => (gives_any _).bind fun beyond _ => ?_
    exact (gives_any _).bind fun number _ => gives_pure ⟨number, rfl⟩

end Attempt

/-! ## Data statements -/

namespace DataStatement

open Attempt

variable {columns : List Column}

/-- A predicate is drawn if there is a column. -/
theorem proper_drawPredicate (columns : List Column) (depth : Nat) :
    Proper (Predicate.draw columns depth) := by
  have simple : Proper (Predicate.drawSimple columns) := by
    refine (proper_member _).then fun column => (proper_draw _).then fun null => ?_
    exact proper_ite ((proper_draw _).then fun _ => proper_pure _)
      ((proper_draw _).then fun _ => (proper_draw _).then fun _ => proper_pure _)
  induction depth with
  | zero => exact simple
  | succ depth hypothesis =>
    refine (proper_draw _).then fun joined => proper_ite ?_ simple
    refine hypothesis.then fun left => hypothesis.then fun right => ?_
    exact (proper_draw _).then fun _ => proper_pure _

theorem proper_drawCondition (columns : List Column) : Proper (drawCondition columns) := by
  refine (proper_draw _).then fun given => proper_ite ?_ (proper_pure _)
  exact (proper_drawPredicate _ _).then fun _ => proper_pure _

/-- Columns whose names are texts are listed by them. -/
theorem columnNames_named (named : ∀ column ∈ columns, column.entry = none) :
    columnNames columns = pure (columns.map Column.name) := by
  have texts (place : Nat) :
      Value.textsFrom place (columns.map Column.key) = .ok (columns.map Column.name) := by
    induction columns generalizing place with
    | nil => rfl
    | cons column columns hypothesis =>
      have text : column.key = .text column.name := by
        rw [Column.key, named column List.mem_cons_self]
        rfl
      rw [List.map_cons, text, Value.textsFrom,
        hypothesis (fun other inside => named other (List.mem_cons_of_mem _ inside))]
      rfl
  rw [columnNames, Value.texts, texts]

theorem proper_columnNames (named : ∀ column ∈ columns, column.entry = none) :
    Proper (columnNames columns) := by
  rw [columnNames_named named]
  exact proper_pure _

variable {table : Table} (named : ∀ column ∈ table.columns, column.entry = none)

include named

theorem proper_drawInsert : Proper (drawInsert table) := by
  refine (proper_subset _).bind (gives_subset _) fun columns inside => ?_
  refine (proper_draw _).then fun count => (proper_draw _).then fun rows => ?_
  exact (proper_columnNames fun column member => named column (inside member)).then
    fun _ => proper_pure _

theorem proper_drawSelect (locking : Bool) : Proper (drawSelect locking table) := by
  have fetched : Proper (drawFetch table.columns) := by
    refine (proper_draw _).then fun all => proper_ite (proper_pure _) ?_
    refine (proper_subset _).bind (gives_subset _) fun columns inside => ?_
    exact (proper_columnNames fun column member => named column (inside member)).then
      fun _ => proper_pure _
  exact fetched.then fun _ => (proper_drawCondition _).then fun _ => proper_pure _

end DataStatement

namespace Schema

open Attempt

/-- The known tables and their columns have texts for names. -/
structure Readable (schema : Schema) : Prop where
  /-- The tables do. -/
  tables : schema.Named
  /-- So do the columns. -/
  columns : ∀ table ∈ schema.tables, ∀ column ∈ table.columns, column.entry = none

/-- A table is drawn if there is one. -/
theorem Named.proper_randomTable {schema : Schema} (named : schema.Named) :
    Proper schema.randomTable := by
  refine proper_ite (proper_throw nofun) ?_
  rw [named.disorder?]
  exact proper_member _

end Schema

open Attempt in
/-- A statement is drawn over a readable schema unless there is nothing to choose. -/
theorem proper_drawStatement {schema : Schema} (readable : schema.Readable) (level : String)
    (kind : StatementKind) : Proper (drawStatement schema (.text level) kind) := by
  have data (draw : Table → Attempt DataStatement)
      (proper : ∀ table : Table, (∀ column ∈ table.columns, column.entry = none) →
        Proper (draw table)) :
      Proper (do return (← draw (← schema.randomTable)).query : Attempt Query) := by
    refine readable.tables.proper_randomTable.bind schema.gives_randomTable fun table member => ?_
    exact (proper table (readable.columns table member)).then fun _ => proper_pure _
  cases kind with
  | begin =>
    refine (proper_draw _).then fun words => proper_ite (proper_pure _) ?_
    exact proper_pure _
  | commit => exact proper_pure _
  | rollback => exact proper_pure _
  | insert => exact data _ fun _ named => DataStatement.proper_drawInsert named
  | select => exact data _ fun _ named => DataStatement.proper_drawSelect named false
  | selectForUpdate => exact data _ fun _ named => DataStatement.proper_drawSelect named true
  | delete =>
    refine data _ fun table _ => ?_
    exact (DataStatement.proper_drawCondition _).then fun _ => proper_pure _
  | update =>
    refine data _ fun table _ => (proper_subset _).then fun columns => (proper_draw _).then fun _ => ?_
    exact (DataStatement.proper_drawCondition _).then fun _ => proper_pure _

/-! ## What a draft leaves alone -/

theorem Bench.Beside.refl (bench : Bench) : bench.Beside bench := ⟨rfl, rfl, rfl, rfl, rfl⟩

theorem Bench.Beside.trans {bench between after : Bench} (first : bench.Beside between)
    (second : between.Beside after) : bench.Beside after where
  server := second.server.trans first.server
  admin := second.admin.trans first.admin
  sessionCount := second.sessionCount.trans first.sessionCount
  plan := second.plan.trans first.plan
  outside := second.outside.trans first.outside

/-- Drafting touches neither the server nor the sessions. -/
theorem Bench.Beside.drafting (first : Bench) : Generation.Drafting first.Beside where
  drawn _ held := held.trans ⟨rfl, rfl, rfl, rfl, rfl⟩
  scripted _ held := held.trans ⟨rfl, rfl, rfl, rfl, rfl⟩

/-! ## Drafts -/

/-- The values by which a scripted synthesizer counts are whole numbers. -/
def Synthesizer.Counts : Synthesizer → Prop
  | .grammar => True
  | .scripted failures fault _ =>
    failures.IsWhole ∧ ∀ text first, fault = some (text, first) → first.IsWhole

/-- The settings and tables from which transactions are drafted are of the kinds that are made for it. -/
structure Bench.CanDraft (bench : Bench) : Prop where
  /-- The least number of data statements is a whole number. -/
  size : bench.settings.minSize.IsWhole
  /-- So is the number of attempts. -/
  attempts : bench.settings.generationAttempts.IsWhole
  /-- The probability of a rollback is a binary number or a whole one. -/
  probability : (∃ number, bench.settings.rollbackProbability = .real number) ∨
    bench.settings.rollbackProbability.IsWhole
  /-- The isolation level is a text. -/
  level : ∃ level, bench.settings.isolationLevel = .text level
  /-- So is the error of a table that changes. -/
  pattern : ∃ pattern, bench.settings.schemaChangedError = .text pattern
  /-- The known tables and columns have texts for names. -/
  readable : bench.schema.Readable
  /-- A script counts by whole numbers. -/
  counts : bench.synthesizer.Counts

/-- It depends on the settings, the known tables and the synthesizer only. -/
theorem Bench.CanDraft.of_same {bench after : Bench} (can : bench.CanDraft)
    (settings : after.settings = bench.settings) (schema : after.schema = bench.schema)
    (counts : after.synthesizer.Counts) : after.CanDraft where
  size := settings ▸ can.size
  attempts := settings ▸ can.attempts
  probability := settings ▸ can.probability
  level := settings ▸ can.level
  pattern := settings ▸ can.pattern
  readable := schema ▸ can.readable
  counts := counts

namespace Task

variable {α β : Type}

/-- What a task of a draft comes to: a fault is one after which the session is closed, and a result is
good. -/
structure Drafted (good : α → Prop) (ended : Except Fault α × Bench) : Prop where
  /-- Further statements can be drafted. -/
  still : ended.2.CanDraft
  /-- A fault is one after which the session is closed. -/
  fault : ∀ fault, ended.1 = .error fault → Generation.closesSession fault = true
  /-- A result is good. -/
  result : ∀ value, ended.1 = .ok value → good value

/-- What the task comes to on every bench on which transactions can be drafted. -/
def Drafts (task : Task α) (good : α → Prop) : Prop :=
  ∀ bench : Bench, bench.CanDraft → Drafted good (task bench)

variable {good : α → Prop} {fit : β → Prop}

theorem drafts_pure {value : α} (held : good value) : Drafts (pure value : Task α) good := by
  intro bench can
  refine ⟨can, fun fault ended => (by cases ended), fun result ended => ?_⟩
  cases ended
  exact held

theorem drafts_throw {fault : Fault} (closes : Generation.closesSession fault = true) :
    Drafts (throw fault : Task α) good := by
  intro bench can
  refine ⟨can, fun thrown ended => ?_, fun value ended => (by cases ended)⟩
  cases ended
  exact closes

/-- A sequence comes to what its second part does after its first part. -/
theorem Drafts.bind {task : Task α} {next : α → Task β} (first : Drafts task good)
    (second : ∀ value, good value → Drafts (next value) fit) : Drafts (task >>= next) fit := by
  intro bench can
  have ended := first bench can
  rw [bind_apply]
  generalize task bench = outcome at ended
  obtain ⟨outcome, later⟩ := outcome
  cases outcome with
  | ok value =>
    have further := second value (ended.result value rfl) later ended.still
    exact ⟨further.still, further.fault, further.result⟩
  | error fault =>
    refine ⟨ended.still, fun thrown same => ?_, fun value same => (by cases same)⟩
    cases same
    exact ended.fault fault rfl

/-- What reads the bench first goes on for each bench by itself. -/
theorem drafts_get_bind {next : Bench → Task α}
    (each : ∀ bench : Bench, bench.CanDraft → Drafted good (next bench bench)) :
    Drafts (get >>= next) good := fun bench can => each bench can

theorem drafts_use {given : Except Misuse α} {value : α} (result : given = .ok value) :
    Drafts (use given) fun _ => True := by
  rw [result]
  exact drafts_pure trivial

/-- What is caught is a result or a fault after which the session is closed. -/
theorem Drafts.caught {task : Task α} (drafts : Drafts task good) :
    Drafts (caught task) fun outcome =>
      (∀ fault, outcome = .error fault → Generation.closesSession fault = true) ∧
        ∀ value, outcome = .ok value → good value := by
  intro bench can
  have ended := drafts bench can
  refine ⟨ended.still, fun fault same => (by cases same), fun outcome same => ?_⟩
  cases same
  exact ⟨ended.fault, ended.result⟩

/-- A choice moves the randomness on; only a choice that fails ends in a fault. -/
theorem attempt_apply (choice : Attempt α) (bench : Bench) :
    attempt choice bench =
      match choice.run bench.randomness with
      | (.ok value, randomness) => (.ok value, { bench with randomness })
      | (.error cause, randomness) => (.error (.ofGeneration cause), { bench with randomness }) := by
  rw [attempt, bind_apply]
  have drawn : draw choice.run bench =
      (.ok (choice.run bench.randomness).1,
        { bench with randomness := (choice.run bench.randomness).2 }) := rfl
  rw [drawn]
  generalize choice.run bench.randomness = outcome
  obtain ⟨outcome, randomness⟩ := outcome
  cases outcome <;> rfl

/-- A proper choice that fails is given up. -/
theorem drafts_attempt {choice : Attempt α} (proper : choice.Proper) (gives : choice.Gives good) :
    Drafts (attempt choice) good := by
  intro bench can
  have failed := proper bench.randomness
  have met := gives bench.randomness
  rw [attempt_apply]
  generalize choice.run bench.randomness = outcome at failed met
  obtain ⟨outcome, randomness⟩ := outcome
  have kept : { bench with randomness }.CanDraft := can.of_same rfl rfl can.counts
  cases outcome with
  | ok value =>
    refine ⟨kept, fun fault same => (by cases same), fun result same => ?_⟩
    cases same
    exact met value rfl
  | error cause =>
    refine ⟨kept, fun fault same => ?_, fun result same => (by cases same)⟩
    have clean := failed cause rfl
    cases same
    cases cause with
    | misuse misuse => exact absurd rfl (clean misuse)
    | _ => rfl

end Task

namespace Generation

open SerialCheck.Task

/-- A scripted data statement that fails is given up. -/
theorem scriptedData_ends {failures : Value} {fault : Option (String × Value)} {calls : Int}
    (counts : (Synthesizer.scripted failures fault calls).Counts) (kind : StatementKind) :
    (∀ thrown, (Synthesizer.scriptedData failures fault calls kind).1 = .error thrown →
        closesSession thrown = true) ∧
      (Synthesizer.scriptedData failures fault calls kind).2.Counts := by
  obtain ⟨⟨number, rfl⟩, due⟩ := counts
  have left : Synthesizer.takeFailure? (.integer number) = .ok none ∨
      Synthesizer.takeFailure? (.integer number) = .ok (some (.integer (number + -1))) := by
    have above : (Value.integer number).isAbove (.integer 0) = .ok (decide (0 < number)) := by
      simp [Value.isAbove, Value.compare, Value.compareNumbers, Value.number?, Number.isMuddled,
        Number.isDecimal, Value.Relation.holds, Number.lt, Number.quantity?, Quantity.lt,
        Rat.intCast_pos]
    unfold Synthesizer.takeFailure?
    rw [above]
    by_cases some_left : 0 < number
    · exact .inr (by rw [decide_eq_true some_left]; rfl)
    · exact .inl (by rw [decide_eq_false some_left]; rfl)
  have known : ∃ text, Synthesizer.dueFault? (calls + 1) fault = .ok text := by
    cases fault with
    | none => exact ⟨none, rfl⟩
    | some given =>
      obtain ⟨text, first⟩ := given
      obtain ⟨bound, rfl⟩ := due text first rfl
      unfold Synthesizer.dueFault?
      dsimp only
      rw [Value.isAtLeast_integer]
      exact ⟨_, rfl⟩
  obtain ⟨text, found⟩ := known
  unfold Synthesizer.scriptedData
  dsimp only
  rw [found]
  cases text with
  | some text => exact ⟨fun thrown same => (by cases same; rfl), ⟨number, rfl⟩, due⟩
  | none =>
    rcases left with taken | taken
    · rw [taken]
      exact ⟨fun thrown same => (by cases same), ⟨number, rfl⟩, due⟩
    · rw [taken]
      exact ⟨fun thrown same => (by cases same; rfl), ⟨_, rfl⟩, due⟩

/-- A statement is drafted, or the draft is given up. -/
theorem drafts_statement (kind : StatementKind) :
    Drafts (Synthesizer.statement kind) fun _ => True := by
  refine drafts_get_bind fun bench can => ?_
  cases synthesizer : bench.synthesizer with
  | grammar =>
    obtain ⟨level, named⟩ := can.level
    dsimp only
    rw [named]
    exact drafts_attempt (proper_drawStatement can.readable level kind) (Attempt.gives_any _) bench can
  | scripted failures fault calls =>
    have counts : (Synthesizer.scripted failures fault calls).Counts := synthesizer ▸ can.counts
    dsimp only
    split
    · exact drafts_pure trivial bench can
    · obtain ⟨closes, still⟩ := scriptedData_ends counts kind
      generalize Synthesizer.scriptedData failures fault calls kind = scripted at closes still
      obtain ⟨outcome, synthesizer⟩ := scripted
      have kept : { bench with synthesizer }.CanDraft := can.of_same rfl rfl still
      cases outcome with
      | ok query => exact ⟨kept, fun _ same => (by cases same), fun _ _ => trivial⟩
      | error fault =>
        refine ⟨kept, fun thrown same => ?_, fun _ _ => trivial⟩
        cases same
        exact closes fault rfl

theorem drafts_tryData : Drafts tryData fun _ => True := by
  refine drafts_get_bind fun bench can => ?_
  refine ((drafts_attempt (Attempt.proper_member _) (Attempt.gives_any _)).bind fun kind _ => ?_) bench can
  refine (drafts_statement kind.val).caught.bind fun outcome ended => ?_
  split
  · exact drafts_pure trivial
  · exact drafts_pure trivial
  next fault _ => exact drafts_throw (ended.1 fault rfl)

theorem drafts_dataStatement (attempts : Value) (further : Nat) :
    Drafts (dataStatement attempts further) fun _ => True := by
  induction further with
  | zero =>
    refine drafts_tryData.bind fun drawn _ => ?_
    split
    · exact drafts_pure trivial
    · exact drafts_throw rfl
  | succ further hypothesis =>
    refine drafts_tryData.bind fun drawn _ => ?_
    split
    · exact drafts_pure trivial
    · exact hypothesis

theorem drafts_dataStatements (id : Int) (count index : Nat) :
    Drafts (dataStatements id count index) fun _ => True := by
  induction count generalizing index with
  | zero => exact drafts_pure trivial
  | succ count hypothesis =>
    refine drafts_get_bind fun bench can => ?_
    obtain ⟨attempts, given⟩ := can.attempts
    have counted : bench.settings.generationAttempts.count = .ok attempts := by rw [given]; rfl
    refine ((drafts_use counted).bind fun allowed _ => ?_) bench can
    refine (drafts_dataStatement _ _).bind fun drawn _ => ?_
    exact (hypothesis (index + 1)).bind fun rest _ => drafts_pure trivial

theorem drafts_drawClosing : Drafts drawClosing fun _ => True := by
  refine drafts_get_bind fun bench can => ?_
  have proper : (Attempt.chance bench.settings.rollbackProbability).Proper := by
    refine (Attempt.proper_draw _).then fun numerator => ?_
    rcases can.probability with ⟨number, given⟩ | ⟨number, given⟩
    · rw [given]
      exact Attempt.proper_use rfl
    · rw [given]
      exact Attempt.proper_use rfl
  refine ((drafts_attempt proper (Attempt.gives_any _)).bind fun rollback _ => ?_) bench can
  exact drafts_pure trivial

theorem drafts_openingOf (id : Int) (query : Query) : Drafts (openingOf id query) fun _ => True := by
  refine drafts_get_bind fun bench can => ?_
  obtain ⟨pattern, given⟩ := can.pattern
  rw [given]
  exact drafts_pure trivial bench can

/-- The statements of a transaction are drafted without touching the server, or the draft is given up by a
fault after which the session is closed. -/
theorem drafts_statements (id : Int) {size : Value} (whole : size.IsWhole) :
    Drafts (statements id size) fun _ => True := by
  obtain ⟨number, rfl⟩ := whole
  refine (drafts_statement .begin).bind fun query _ => (drafts_openingOf id query).bind fun opening _ => ?_
  refine (drafts_use (rfl : (Value.integer number).count = .ok number)).bind fun count _ => ?_
  refine (drafts_dataStatements id _ 1).bind fun data _ => drafts_drawClosing.bind fun kind _ => ?_
  exact (drafts_statement kind.val).bind fun closing _ => drafts_pure trivial

/-- The number of data statements that is drawn is a whole number. -/
theorem drawSize_ends {bench : Bench} (can : bench.CanDraft) :
    (drawSize bench).2.CanDraft ∧ ∀ size, (drawSize bench).1 = .ok size → size.IsWhole := by
  have drawn : drawSize bench = (use bench.settings.maxSize.successor >>= fun beyond =>
      attempt (Attempt.between bench.settings.minSize beyond)) bench := rfl
  rw [drawn, bind_apply]
  cases bench.settings.maxSize.successor with
  | error cause => exact ⟨can, fun size same => (by cases same)⟩
  | ok beyond =>
    have met := Attempt.gives_between can.size beyond bench.randomness
    show (attempt (Attempt.between bench.settings.minSize beyond) bench).2.CanDraft ∧ ∀ size,
      (attempt (Attempt.between bench.settings.minSize beyond) bench).1 = .ok size → size.IsWhole
    rw [attempt_apply]
    generalize (Attempt.between bench.settings.minSize beyond).run bench.randomness = outcome at met
    obtain ⟨outcome, randomness⟩ := outcome
    have kept : { bench with randomness }.CanDraft := can.of_same rfl rfl can.counts
    cases outcome with
    | ok size =>
      refine ⟨kept, fun result same => ?_⟩
      cases same
      exact met size rfl
    | error cause => exact ⟨kept, fun size same => (by cases same)⟩

end Generation

end SerialCheck

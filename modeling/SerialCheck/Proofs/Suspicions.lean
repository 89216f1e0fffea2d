import SerialCheck.Proofs.Generated.WellFormed
import SerialCheck.Proofs.LockConflicts
import SerialCheck.Proofs.Patterns

/-!
# Which lock conflicts are suspicious

A run records the error of a statement unless the statement expects it. What a generated statement expects
is settled by its kind: a data statement the errors of data statements, two of the reports of lock conflicts
and, if it locks rows, a third one, and the closing statement nothing (`Generation.expected_of_returned`). So
a run takes a lock conflict at a data statement for suspicious exactly if none of these phrases occurs in
its report, and at the closing statement it takes every one for suspicious
(`Generation.suspects_lock_conflict`).
-/
namespace SerialCheck

open SerialCheck.Task

/-- A report that is a lock conflict is not empty. -/
theorem ne_empty_of_isLockConflict {report : String} (conflict : isLockConflict report = true) :
    report ≠ "" := by
  rintro rfl
  exact absurd conflict (by decide +kernel)

namespace Run

/-- A run makes no record of the report as an error of the statement. -/
def PassesOver (statement : Statement) (report : String) : Prop :=
  ∀ (outcome : Outcome) (bench : Bench), outcome.error = some report →
    (reportUnexpected statement outcome).Returns bench () bench

/-- A run records the report as an unexpected error of the statement. -/
def Suspects (statement : Statement) (report : String) : Prop :=
  ∀ (outcome : Outcome) (bench : Bench), outcome.error = some report →
    (reportUnexpected statement outcome).Returns bench ()
      { bench with journal :=
          bench.journal.push (.warning, "Unexpected error: " ++ statement.display ++ report) }

variable {statement : Statement} {report : String}

theorem passesOver_of_expects (expects : statement.expects report = .ok true) :
    PassesOver statement report := by
  intro outcome bench error
  rw [reportUnexpected, error]
  exact returns_bind.2 ⟨true, bench, returns_use.2 ⟨expects, rfl⟩, returns_pure.2 ⟨rfl, rfl⟩⟩

theorem suspects_of_expects (expects : statement.expects report = .ok false) :
    Suspects statement report := by
  intro outcome bench error
  rw [reportUnexpected, error]
  exact returns_bind.2 ⟨false, bench, returns_use.2 ⟨expects, rfl⟩, returns_log.2 rfl⟩

end Run

/-! ## What queries expect -/

/-- The errors that a query of the kind expects. -/
def StatementKind.drawnErrors : StatementKind → ExpectedErrors
  | .begin | .commit | .rollback => .none
  | .selectForUpdate => DataStatement.expected.withPatterns [DataStatement.lockError]
  | .insert | .select | .delete | .update => DataStatement.expected

/-- A data statement expects what its kind does. -/
theorem DataStatement.query_expected {statement : DataStatement} {kind : StatementKind}
    (is : statement.Is kind) : statement.query.expected = kind.drawnErrors := by
  cases kind with
  | insert => obtain ⟨_, _, _, rfl⟩ := is; rfl
  | select => obtain ⟨_, _, _, rfl⟩ := is; rfl
  | selectForUpdate => obtain ⟨_, _, _, rfl⟩ := is; rfl
  | delete => obtain ⟨_, _, rfl⟩ := is; rfl
  | update => obtain ⟨_, _, _, rfl⟩ := is; rfl
  | begin => exact is.elim
  | commit => exact is.elim
  | rollback => exact is.elim

open Attempt in
/-- A query that is drawn for a kind expects what the kind does. -/
theorem gives_drawnErrors (schema : Schema) (level : Value) (kind : StatementKind) :
    Gives (drawStatement schema level kind) (·.expected = kind.drawnErrors) := by
  cases control : kind.isControl with
  | false =>
    refine (gives_drawStatement_data schema level control).mono ?_
    rintro _ ⟨statement, is, rfl⟩
    exact DataStatement.query_expected is
  | true =>
    cases kind with
    | begin => exact Generation.gives_drawOpening_plain level
    | commit => exact gives_pure rfl
    | rollback => exact gives_pure rfl
    | insert | select | selectForUpdate | delete | update => cases control

namespace Generation

variable {bench after : Bench}

/-- A data statement stands in a slot that was filled by drawing. -/
theorem exists_filled (grammar : bench.synthesizer = .grammar) {id : Int} {count index : Nat}
    {items : List DataItem} (returned : (dataStatements id count index).Returns bench items after) :
    (∀ item ∈ items, ∃ (slot : Slot) (place : Nat) (middle last : Bench),
        middle.synthesizer = .grammar ∧ slot.Filled middle last ∧ item = slot.item id place) ∧
      after.synthesizer = .grammar := by
  induction count generalizing bench index items with
  | zero =>
    obtain ⟨rfl, rfl⟩ := returns_pure.1 returned
    exact ⟨by simp, grammar⟩
  | succ count hypothesis =>
    rw [dataStatements, returns_get_bind] at returned
    simp only [returns_bind, returns_use, returns_pure] at returned
    obtain ⟨attempts, _, ⟨_, rfl⟩, ⟨kind, query⟩, between, made, rest, last, others, rfl, rfl⟩ := returned
    obtain ⟨causes, _, filled⟩ := dataStatement_returns.1 made
    have moved := filled.redrawn grammar
    obtain ⟨stand, drawn⟩ := hypothesis (moved.synthesizer.trans grammar) others
    refine ⟨List.forall_mem_cons.2 ⟨?_, stand⟩, drawn⟩
    exact ⟨⟨causes, kind, query⟩, index, _, between, grammar, filled, rfl⟩

/-- What the statements behind the first one expect is settled by their kinds. -/
structure ExpectsByKind (transaction : Transaction) : Prop where
  /-- Data statements expect the errors of their kind and those of lock conflicts. -/
  data : ∀ statement ∈ transaction.data, statement.strays = [] ∧
    statement.expected = statement.kind.drawnErrors.withPatterns conflictErrors
  /-- The closing statement expects none. -/
  closing : transaction.closing.strays = [] ∧ transaction.closing.expected = .none

/-- A closing statement that is drawn expects no error. -/
theorem drawnErrors_closing (kind : ClosingKind) : kind.val.drawnErrors = .none := by
  obtain ⟨kind, ends⟩ := kind
  cases kind <;> first | rfl | cases ends

/-- Making the opening statement leaves the bench as it is. -/
theorem openingOf_same {id : Int} {query : Query} {opening : { opening : Statement // opening.kind = .begin }}
    (returned : (openingOf id query).Returns bench opening after) : after = bench := by
  rw [openingOf, returns_get_bind] at returned
  split at returned
  · exact (returns_pure.1 returned).2
  · split at returned
    · exact (returns_throw.1 returned).elim
    · exact (returns_pure.1 returned).2

/-- Drawing the closing kind moves at most the randomness on. -/
theorem drawClosing_redrawn {kind : ClosingKind} (returned : drawClosing.Returns bench kind after) :
    bench.Redrawn after := by
  rw [drawClosing, returns_get_bind] at returned
  obtain ⟨rollback, drawn, chosen, rest⟩ := returns_bind.1 returned
  rw [(returns_pure.1 rest).2]
  exact redrawn_attempt chosen

/-- The statements of a transaction that are drawn expect what their kinds say. -/
theorem expects_of_statements (grammar : bench.synthesizer = .grammar) {id : Int} {size : Value}
    {made : Transaction} (returned : (statements id size).Returns bench made after) : ExpectsByKind made := by
  simp only [statements, returns_bind, returns_use, returns_pure] at returned
  obtain ⟨begins, _, opens, opening, _, notes, count, opened, ⟨_, rfl⟩, items, filled, drew, kind, chosen,
    chose, closing, closed, closes, rfl, rfl⟩ := returned
  obtain rfl := openingOf_same notes
  have first : opened.synthesizer = .grammar := by
    rw [Returns, statement_grammar grammar] at opens
    exact (redrawn_attempt opens).synthesizer.trans grammar
  obtain ⟨stand, still⟩ := exists_filled first drew
  constructor
  · intro statement inside
    obtain ⟨item, member, rfl⟩ := List.mem_map.1 inside
    obtain ⟨slot, place, middle, last, drawn, filled, rfl⟩ := stand item member
    have expected : slot.query.expected = slot.kind.val.drawnErrors :=
      @Slot.Filled.gives _ _ _ (fun kind query => query.expected = kind.drawnErrors) drawn
        gives_drawnErrors filled
    exact ⟨rfl, congrArg (·.withPatterns conflictErrors) expected⟩
  · refine ⟨rfl, ?_⟩
    have drawn := (drawClosing_redrawn chose).synthesizer.trans still
    rw [Returns, statement_grammar drawn] at closes
    exact (attempt_gives (gives_drawnErrors _ _ _) closes).trans (drawnErrors_closing kind)

/-- So does drawing the number of data statements. -/
theorem drawSize_redrawn {size : Value} (returned : drawSize.Returns bench size after) :
    bench.Redrawn after := by
  rw [drawSize, returns_get_bind] at returned
  obtain ⟨beyond, _, used, drew⟩ := returns_bind.1 returned
  obtain ⟨_, rfl⟩ := returns_use.1 used
  exact redrawn_attempt drew

/-- So do those of a transaction that is generated. -/
theorem expects_of_returned (grammar : bench.synthesizer = .grammar) {made : OpenTransaction}
    (returned : transaction.Returns bench made after) : ExpectsByKind made.toTransaction := by
  simp only [transaction, returns_bind, returns_caught] at returned
  obtain ⟨size, sized, drew, id, numbered, numbering, outcome, opened, asked, rest⟩ := returned
  obtain ⟨_, rfl⟩ := nextId_returns.1 numbering
  have first : opened.synthesizer = .grammar := by
    have kept := (Bench.openSession_same
      { sized with nextTransaction := sized.nextTransaction + 1 }).2.2
    rw [asked] at kept
    exact kept.trans ((drawSize_redrawn drew).synthesizer.trans grammar)
  cases outcome with
  | error fault => exact (returns_throw.1 rest).elim
  | ok session =>
    obtain ⟨outcome, drafted, drafts, rest⟩ := returns_bind.1 rest
    split at rest
    · split at rest
      · obtain ⟨_, _, _, rest⟩ := returns_bind.1 rest
        exact (returns_throw.1 rest).elim
      · exact (returns_throw.1 rest).elim
    · obtain ⟨_, _, _, rest⟩ := returns_bind.1 rest
      rw [(returns_pure.1 rest).1]
      exact expects_of_statements first (returns_caught.1 drafts)

/-! ## What a run takes for suspicious -/

/-- The phrases that make a data statement of the kind expect a report. -/
def foreseen (kind : StatementKind) : List String := kind.drawnErrors.patterns ++ conflictErrors

/-- The report holds one of the phrases by which a data statement of the kind expects it, letter case
aside. -/
def Foresees (kind : StatementKind) (report : String) : Prop :=
  ∃ phrase ∈ foreseen kind, Text.contains (Text.lower report) phrase = true

instance (kind : StatementKind) (report : String) : Decidable (Foresees kind report) :=
  inferInstanceAs (Decidable (∃ phrase ∈ foreseen kind, _))

/-- The phrases are in lower case. -/
theorem lower_of_mem_foreseen {kind : StatementKind} :
    ∀ phrase ∈ foreseen kind, Text.lower phrase = phrase := by
  cases kind <;> decide +kernel

namespace ExpectsByKind

variable {made : Transaction} (byKind : ExpectsByKind made) {report : String}

include byKind

/-- A data statement expects the reports that its kind foresees. -/
theorem data_expects {statement : Statement} (inside : statement ∈ made.data) (something : report ≠ "") :
    ∃ expected, statement.expects report = .ok expected ∧
      (expected = true ↔ Foresees statement.kind report) := by
  obtain ⟨clean, expected⟩ := byKind.data statement inside
  refine ⟨statement.expected.matches? report, by rw [Statement.expects, clean], ?_⟩
  rw [ExpectedErrors.matches?_iff something, expected]
  constructor
  · rintro ⟨phrase, listed, found⟩
    have member : phrase ∈ foreseen statement.kind :=
      List.mem_append.2 (ExpectedErrors.mem_withPatterns.1 listed)
    rw [lower_of_mem_foreseen phrase member] at found
    exact ⟨phrase, member, found⟩
  · rintro ⟨phrase, member, found⟩
    refine ⟨phrase, ExpectedErrors.mem_withPatterns.2 (List.mem_append.1 member), ?_⟩
    rwa [lower_of_mem_foreseen phrase member]

/-- The closing statement expects no report. -/
theorem closing_expects (report : String) : made.closing.expects report = .ok false := by
  obtain ⟨clean, expected⟩ := byKind.closing
  rw [Statement.expects, clean, expected]
  exact congrArg Except.ok (Bool.and_false _)

end ExpectsByKind

/-- At a data statement of a generated transaction a run takes a lock conflict for suspicious exactly if its
report holds no phrase that the kind of the statement foresees, and at the closing statement it takes every
lock conflict for suspicious. -/
theorem suspects_lock_conflict (grammar : bench.synthesizer = .grammar) {made : OpenTransaction}
    (returned : transaction.Returns bench made after) {report : String}
    (conflict : isLockConflict report = true) :
    (∀ statement ∈ made.data,
        (Foresees statement.kind report → Run.PassesOver statement report) ∧
          (¬Foresees statement.kind report → Run.Suspects statement report)) ∧
      Run.Suspects made.closing report := by
  have byKind := expects_of_returned grammar returned
  constructor
  · intro statement inside
    obtain ⟨expected, expects, exactly⟩ :=
      byKind.data_expects inside (ne_empty_of_isLockConflict conflict)
    constructor
    · intro foresees
      rw [exactly.2 foresees] at expects
      exact Run.passesOver_of_expects expects
    · intro surprised
      have unexpected : expected = false := Bool.eq_false_iff.2 (mt exactly.1 surprised)
      rw [unexpected] at expects
      exact Run.suspects_of_expects expects
  · exact Run.suspects_of_expects (byKind.closing_expects report)

end Generation

namespace Sample

/-- The report of a serialization failure. -/
def failureReport : String := "could not serialize access due to read/write dependencies among transactions"

/-- The report of a lock timeout. -/
def timeoutReport : String := "canceling statement due to lock timeout"

theorem failureReport_conflicts : isLockConflict failureReport = true := by
  decide +kernel

theorem timeoutReport_conflicts : isLockConflict timeoutReport = true := by
  decide +kernel

theorem insert_foresees_failure : Generation.Foresees .insert failureReport :=
  ⟨"could not serialize access", by decide +kernel, by decide +kernel⟩

theorem insert_not_foresees_timeout : ¬Generation.Foresees .insert timeoutReport := by
  decide +kernel

/-- A bench on which a transaction with one insertion is generated. -/
def inserting : Bench := followed lopsided [0, 0, 0, 0, 0, 0x40000000]

theorem inserting_returns : ∃ made after, Generation.transaction.Returns inserting made after ∧
    ∃ statement, made.data = [statement] ∧ statement.kind = .insert := by
  obtain ⟨made, after, returned, kinds⟩ := returns_of_map (show
    (Generation.transaction inserting).1.toOption.map (·.data.map (·.kind)) = some [.insert] by
      decide +kernel)
  obtain ⟨statement, alone, kind⟩ := List.map_eq_singleton_iff.1 kinds
  exact ⟨made, after, returned, statement, alone, kind⟩

end Sample

open Sample in
/-- An insertion foresees a serialization failure, but no lock timeout, and the statement that closes its
transaction neither of the two. -/
theorem Generation.suspects_lock_conflict_insert :
    ∃ made after, transaction.Returns inserting made after ∧ ∃ statement, made.data = [statement] ∧
      Run.PassesOver statement failureReport ∧ Run.Suspects statement timeoutReport ∧
        Run.Suspects made.closing failureReport ∧ Run.Suspects made.closing timeoutReport := by
  obtain ⟨made, after, returned, statement, alone, kind⟩ := inserting_returns
  have inside : statement ∈ made.data := alone ▸ List.mem_singleton_self statement
  obtain ⟨failure, closing⟩ := suspects_lock_conflict rfl returned failureReport_conflicts
  obtain ⟨timeout, closing'⟩ := suspects_lock_conflict rfl returned timeoutReport_conflicts
  refine ⟨made, after, returned, statement, alone, ?_, ?_, closing, closing'⟩
  · exact (failure statement inside).1 (kind ▸ insert_foresees_failure)
  · exact (timeout statement inside).2 (kind ▸ insert_not_foresees_timeout)

open Sample in
/-- There are lock conflicts that the statements of a generated transaction do not expect: a run records the
lock timeout of its insertion and the serialization failure of its closing statement as unexpected errors. -/
theorem Generation.lock_conflict_recorded :
    ∃ made after, transaction.Returns inserting made after ∧ ∃ statement, made.data = [statement] ∧
      (isLockConflict timeoutReport = true ∧ statement.expects timeoutReport = .ok false ∧
        Run.Suspects statement timeoutReport) ∧
      (isLockConflict failureReport = true ∧ made.closing.expects failureReport = .ok false ∧
        Run.Suspects made.closing failureReport) := by
  obtain ⟨made, after, returned, statement, alone, kind⟩ := inserting_returns
  have byKind := expects_of_returned rfl returned
  have inside : statement ∈ made.data := alone ▸ List.mem_singleton_self statement
  have something : timeoutReport ≠ "" := ne_empty_of_isLockConflict timeoutReport_conflicts
  obtain ⟨expected, expects, exactly⟩ := byKind.data_expects inside something
  have unexpected : expected = false := by
    rw [← Bool.not_eq_true, exactly, kind]
    exact insert_not_foresees_timeout
  have data : statement.expects timeoutReport = .ok false := unexpected ▸ expects
  have closing := byKind.closing_expects failureReport
  exact ⟨made, after, returned, statement, alone,
    ⟨timeoutReport_conflicts, data, Run.suspects_of_expects data⟩,
    ⟨failureReport_conflicts, closing, Run.suspects_of_expects closing⟩⟩

end SerialCheck

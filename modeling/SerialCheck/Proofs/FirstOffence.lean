import SerialCheck.Proofs.Contract
import SerialCheck.Proofs.RowTexts

/-!
# The first offence decides

A result of the test run offends if it has no counterpart in the serial run or differs from it. The
comparison fails if the first offence is a missing counterpart, and names the statement of the first
offence with its reason otherwise; only if nothing offends do the tables decide, in the order of
their names (`compare_by_first_offence`).
-/
namespace SerialCheck

/-- A text or its absence as a value. -/
def Value.IsReport (value : Value) : Prop := ∃ report : Option String, value = .ofText? report

/-- Reports are alike only if they are equal. -/
theorem Value.IsReport.alike {left right : Value} (known : left.IsReport) (other : right.IsReport) :
    left.alike right = decide (left = right) := by
  obtain ⟨left, rfl⟩ := known
  obtain ⟨right, rfl⟩ := other
  cases left with
  | none => cases right <;> simp [ofText?, Value.alike, same, equal, equalNumbers, number?, Except.toOption]
  | some left =>
    cases right with
    | none => simp [ofText?, Value.alike, same, equal, equalNumbers, number?, Except.toOption]
    | some right => simp [ofText?, Value.alike_text]

namespace StatementResult

/-- What the engine reported with a result are texts, where it reported anything. -/
structure Worded (result : StatementResult) : Prop where
  /-- The error is a text, if there is one. -/
  error : result.error.IsReport
  /-- The warnings are a text, if there are any. -/
  warning : result.warning.IsReport

/-- The result has an error, and it is a lock conflict. -/
def Conflicts (result : StatementResult) : Prop :=
  ∃ report, result.error = .text report ∧ SerialCheck.isLockConflict report = true

/-- A worded error can be classified. -/
theorem Worded.isLockConflict {result : StatementResult} (worded : result.Worded) :
    ∃ isConflict, result.isLockConflict = .ok isConflict ∧ (isConflict = true ↔ result.Conflicts) := by
  obtain ⟨report, given⟩ := worded.error
  unfold StatementResult.isLockConflict Conflicts
  rw [given]
  cases report with
  | none => exact ⟨false, rfl, by simp [Value.ofText?]⟩
  | some report => exact ⟨_, rfl, by simp [Value.ofText?]⟩

/-- How a result of the test run differs from its counterpart: later rules apply only where the
earlier ones find agreement, and to no lock conflict that the serial run does not report. -/
inductive Differs (test serial : StatementResult) : Reason → Prop where
  /-- Exactly one of the two has an error, and it is no lock conflict of the test run. -/
  | errorReporting (one : test.failed ≠ serial.failed) (calm : ¬test.Conflicts) :
      Differs test serial .errorReporting
  /-- Both have an error, with different texts. -/
  | errorDetail (here : test.error ≠ .null) (there : serial.error ≠ .null)
      (different : test.error ≠ serial.error) : Differs test serial .errorDetail
  /-- The errors agree, and the warnings do not. -/
  | warning (errors : test.error = serial.error) (different : test.warning ≠ serial.warning) :
      Differs test serial .warning
  /-- Errors and warnings agree, the statement reads rows, and the rows do not agree. -/
  | resultSet (errors : test.error = serial.error) (warnings : test.warning = serial.warning)
      (reads : test.statement.kind.returnsRows = true)
      (different : Rows.report test.rows serial.rows ≠ "") : Differs test serial .resultSet

/-- A result that was not blocked offends against a serial run: it has no counterpart there, which is
no reason for a finding, or it differs from the counterpart for a reason. -/
def Offends (test : StatementResult) (serial : Trace) : Option Reason → Prop
  | none => test.isBlocked = false ∧ serial.resultFor? test.statement = none
  | some reason =>
    test.isBlocked = false ∧ ∃ counterpart,
      serial.resultFor? test.statement = some counterpart ∧ test.Differs counterpart reason

end StatementResult

/-- All results of a trace are worded. -/
def Trace.Worded (trace : Trace) : Prop := ∀ result ∈ trace.results, result.Worded

/-- A result is the first one of a trace that offends against a serial run. -/
def Trace.FirstOffence (test serial : Trace) (result : StatementResult) (reason : Option Reason) :
    Prop :=
  ∃ before after, test.results = before ++ result :: after ∧
    (∀ earlier ∈ before, ∀ cause, ¬earlier.Offends serial cause) ∧ result.Offends serial reason

/-- Two runs agree about a table: neither has it, or both have it with rows that do not differ. -/
def Contents.AgreeOn (test serial : Contents) (name : String) : Prop :=
  match test.lookup name, serial.lookup name with
  | none, none => True
  | some left, some right => Rows.report left right = ""
  | _, _ => False

namespace Comparison

variable {test serial : StatementResult}

/-- A difference that is found between worded results is one by the rules. -/
theorem differs_of_statementFinding (worded : test.Worded) (other : serial.Worded) {finding : Finding}
    (found : statementFinding? test serial = .ok (some finding)) :
    test.Differs serial finding.reason := by
  obtain ⟨isConflict, classified, conflicts⟩ := worded.isLockConflict
  unfold statementFinding? at found
  split at found
  next one =>
    rw [classified] at found
    cases isConflict with
    | true => cases found
    | false =>
      cases found
      exact .errorReporting one fun conflict => Bool.false_ne_true (conflicts.2 conflict)
  next both =>
    rw [not_not, StatementResult.failed, StatementResult.failed, Bool.eq_iff_iff, bne_iff_ne,
      bne_iff_ne] at both
    rw [worded.error.alike other.error] at found
    split at found
    next details =>
      cases found
      simp only [StatementResult.failed, Bool.and_eq_true, bne_iff_ne, Bool.not_eq_true',
        decide_eq_false_iff_not] at details
      exact .errorDetail details.1 (both.1 details.1) details.2
    next agree =>
      have errors : test.error = serial.error := by
        by_cases none : test.error = .null
        · rw [none]
          by_contra given
          exact both.2 (Ne.symm given) none
        · simpa [StatementResult.failed, none] using agree
      unfold effectFinding? at found
      rw [worded.warning.alike other.warning] at found
      split at found
      next different =>
        cases found
        exact .warning errors (by simpa using different)
      next warnings =>
        split at found
        next reads =>
          obtain ⟨difference, differs, rfl⟩ := Option.map_eq_some_iff.1 (Except.ok.inj found)
          refine .resultSet errors (by simpa using warnings) reads ?_
          rw [ne_eq, Rows.report_eq_empty, differs]
          exact Option.some_ne_none difference
        · cases found

/-- A difference by the rules between worded results is found. -/
theorem statementFinding_of_differs (worded : test.Worded) (other : serial.Worded) {reason : Reason}
    (differs : test.Differs serial reason) :
    ∃ finding, statementFinding? test serial = .ok (some finding) ∧ finding.reason = reason := by
  obtain ⟨isConflict, classified, conflicts⟩ := worded.isLockConflict
  have agree (errors : test.error = serial.error) :
      statementFinding? test serial = .ok (effectFinding? test serial) := by
    rw [statementFinding?, StatementResult.failed, StatementResult.failed, errors, Value.alike_refl]
    simp
  cases differs with
  | errorReporting one calm =>
    have known : isConflict = false := Bool.eq_false_iff.2 fun conflict => calm (conflicts.1 conflict)
    rw [statementFinding?, if_pos one, classified, known]
    exact ⟨_, rfl, rfl⟩
  | errorDetail here there different =>
    have fails : test.failed = true := bne_iff_ne.2 here
    have fails' : serial.failed = true := bne_iff_ne.2 there
    rw [statementFinding?, fails, fails', worded.error.alike other.error, decide_eq_false different]
    exact ⟨_, rfl, rfl⟩
  | warning errors different =>
    rw [agree errors, effectFinding?, worded.warning.alike other.warning, decide_eq_false different]
    exact ⟨_, rfl, rfl⟩
  | resultSet errors warnings reads different =>
    rw [ne_eq, Rows.report_eq_empty] at different
    obtain ⟨difference, differs⟩ := Option.ne_none_iff_exists'.1 different
    rw [agree errors, effectFinding?, warnings, Value.alike_refl, reads, differs]
    exact ⟨_, rfl, rfl⟩

variable {run : Trace}

/-- A result that is compared with its counterpart and passes does not offend. -/
theorem not_offends_of_passes (worded : test.Worded) (other : serial.Worded)
    (met : run.resultFor? test.statement = some serial)
    (passes : statementFinding? test serial = .ok none) (cause : Option Reason) :
    ¬test.Offends run cause := by
  cases cause with
  | none =>
    rintro ⟨_, missing⟩
    rw [met] at missing
    cases missing
  | some reason =>
    rintro ⟨_, counterpart, met', differs⟩
    obtain rfl := Option.some.inj (met.symm.trans met')
    obtain ⟨finding, found, _⟩ := statementFinding_of_differs worded other differs
    rw [passes] at found
    cases found

/-- Results in which nothing offends are passed over. -/
theorem firstFinding?_append {before : List StatementResult} (worded : ∀ test ∈ before, test.Worded)
    (other : run.Worded) (calm : ∀ test ∈ before, ∀ cause, ¬test.Offends run cause)
    (rest : List StatementResult) :
    firstFinding? run (before ++ rest) = firstFinding? run rest := by
  induction before with
  | nil => rfl
  | cons test before hypothesis =>
    have others := hypothesis (fun one member => worded one (List.mem_cons_of_mem _ member))
      fun one member => calm one (List.mem_cons_of_mem _ member)
    have here := calm test List.mem_cons_self
    rw [List.cons_append, firstFinding?]
    split
    · exact others
    next unblocked =>
      have unblocked := Bool.eq_false_iff.2 unblocked
      cases met : run.resultFor? test.statement with
      | none => exact absurd ⟨unblocked, met⟩ (here none)
      | some counterpart =>
        have worded' := worded test List.mem_cons_self
        have other' := other counterpart (List.mem_of_find?_eq_some met)
        obtain ⟨outcome, compared⟩ :
            ∃ outcome, statementFinding? test counterpart = .ok outcome :=
          statementFinding_returns (worded'.isLockConflict.imp fun _ => And.left)
        simp only [compared]
        cases outcome with
        | none => exact others
        | some finding =>
          exact absurd
            ⟨unblocked, counterpart, met, differs_of_statementFinding worded' other' compared⟩
            (here (some finding.reason))

/-! ## The tables -/

/-- The tables that are compared are those that one of the runs has. -/
theorem mem_tableNames {test serial : Contents} {name : String} :
    name ∈ tableNames test serial ↔ test.lookup name ≠ none ∨ serial.lookup name ≠ none := by
  have known (contents : Contents) :
      name ∈ contents.map Prod.fst ↔ contents.lookup name ≠ none := by
    rw [← Option.isSome_iff_ne_none, List.lookup_isSome_iff, List.mem_map]
    simp
  rw [tableNames, ExpectedErrors.mem_distinct, List.mem_append, known, known]

/-- A table that one of the runs has makes a difference unless they agree about it. -/
theorem contentsFinding?_eq_none {test serial : Contents} {name : String}
    (known : name ∈ tableNames test serial) :
    contentsFinding? test serial name = none ↔ test.AgreeOn serial name := by
  rw [mem_tableNames] at known
  unfold contentsFinding? Contents.AgreeOn
  cases here : test.lookup name <;> cases there : serial.lookup name
  · simp [here, there] at known
  · simp
  · simp
  · simp [Rows.report_eq_empty]

/-- A difference between the contents of a table names the table, and no statement. -/
theorem of_contentsFinding {test serial : Contents} {name : String} {finding : Finding}
    (found : contentsFinding? test serial name = some finding) :
    finding.reason = .finalState ∧ finding.statement = none ∧
      finding.evidence.lookup "table" = some (.text name) := by
  unfold contentsFinding? at found
  split at found
  · obtain ⟨difference, _, rfl⟩ := Option.map_eq_some_iff.1 found
    exact ⟨rfl, rfl, rfl⟩
  · cases found
    exact ⟨rfl, rfl, rfl⟩

/-- Runs that agree about every table are consistent in the end, and no others are. -/
theorem finalVerdict_eq_consistent {test serial : Trace} :
    finalVerdict test serial = .consistent ↔
      ∀ name, test.finalState.AgreeOn serial.finalState name := by
  have search : finalVerdict test serial = .consistent ↔
      ∀ name ∈ tableNames test.finalState serial.finalState,
        contentsFinding? test.finalState serial.finalState name = none := by
    rw [← List.findSome?_eq_none_iff, finalVerdict]
    split <;> simp_all
  rw [search]
  constructor
  · intro calm name
    by_cases known : name ∈ tableNames test.finalState serial.finalState
    · exact (contentsFinding?_eq_none known).1 (calm name known)
    · rw [mem_tableNames, not_or, not_not, not_not] at known
      rw [Contents.AgreeOn, known.1, known.2]
      trivial
  · exact fun agree name known => (contentsFinding?_eq_none known).2 (agree name)

/-- The table that comes first among those about which the runs do not agree is reported. -/
theorem finalVerdict_of_first {test serial : Trace} {name : String}
    (differs : ¬test.finalState.AgreeOn serial.finalState name)
    (first : ∀ other < name, test.finalState.AgreeOn serial.finalState other) :
    ∃ finding, finalVerdict test serial = .inconsistent finding ∧ finding.reason = .finalState ∧
      finding.statement = none ∧ finding.evidence.lookup "table" = some (.text name) := by
  have known : name ∈ tableNames test.finalState serial.finalState := by
    rw [mem_tableNames]
    by_contra unknown
    rw [not_or, not_not, not_not] at unknown
    rw [Contents.AgreeOn, unknown.1, unknown.2] at differs
    exact differs trivial
  obtain ⟨earlier, later, all⟩ := List.append_of_mem known
  have ascending := ExpectedErrors.pairwise_distinct
    (test.finalState.map Prod.fst ++ serial.finalState.map Prod.fst)
  have calm : earlier.findSome? (contentsFinding? test.finalState serial.finalState) = none := by
    refine List.findSome?_eq_none_iff.2 fun other inside => ?_
    have listed : other ∈ tableNames test.finalState serial.finalState :=
      all ▸ List.mem_append_left _ inside
    refine (contentsFinding?_eq_none listed).2 (first other ?_)
    rw [show distinct _ = earlier ++ name :: later from all] at ascending
    exact (List.pairwise_append.1 ascending).2.2 other inside name List.mem_cons_self
  obtain ⟨finding, found⟩ := Option.ne_none_iff_exists'.1
    fun none => differs ((contentsFinding?_eq_none known).1 none)
  refine ⟨finding, ?_, of_contentsFinding found⟩
  rw [finalVerdict, all, List.findSome?_append, calm, List.findSome?_cons, found]
  rfl

/-! ## The first offence -/

section

variable {test serial : Trace} {result : StatementResult} (worded : test.Worded)
  (worded' : serial.Worded)

include worded worded'

/-- Up to the first offence the results are passed over. -/
theorem firstFinding?_of_split {before rest : List StatementResult}
    (all : test.results = before ++ rest)
    (calm : ∀ earlier ∈ before, ∀ cause, ¬earlier.Offends serial cause) :
    firstFinding? serial test.results = firstFinding? serial rest := by
  rw [all]
  refine firstFinding?_append (fun one inside => worded one ?_) worded' calm rest
  exact all ▸ List.mem_append_left _ inside

/-- The comparison fails at a first offence without a counterpart. -/
theorem compare_of_missing (first : test.FirstOffence serial result none) :
    compare test serial = .error (.noCounterpart result.statement) := by
  obtain ⟨before, after, all, calm, unblocked, missing⟩ := first
  have found : firstFinding? serial test.results = .error (.noCounterpart result.statement) := by
    rw [firstFinding?_of_split worded worded' all calm, firstFinding?, unblocked, missing]
    rfl
  rw [compare, found]
  rfl

/-- The verdict is about the first offence if that has a counterpart. -/
theorem compare_of_differs {reason : Reason}
    (first : test.FirstOffence serial result (some reason)) :
    ∃ finding, compare test serial = .ok (.inconsistent finding) ∧
      finding.statement = some result.statement ∧ finding.reason = reason := by
  obtain ⟨before, after, all, calm, unblocked, counterpart, met, differs⟩ := first
  have inside : result ∈ test.results := all ▸ List.mem_append_right _ List.mem_cons_self
  obtain ⟨finding, found, because⟩ := statementFinding_of_differs (worded result inside)
    (worded' counterpart (List.mem_of_find?_eq_some met)) differs
  have here : firstFinding? serial test.results = .ok (some finding) := by
    rw [firstFinding?_of_split worded worded' all calm, firstFinding?, unblocked, met]
    simp [found]
  refine ⟨finding, ?_, statement_of_statementFinding found, because⟩
  rw [compare, here]
  rfl

/-- The tables decide if nothing offends. -/
theorem compare_of_calm (calm : ∀ result ∈ test.results, ∀ cause, ¬result.Offends serial cause) :
    compare test serial = .ok (finalVerdict test serial) := by
  rw [compare, firstFinding?_of_split worded worded' (List.append_nil _).symm calm]
  rfl

end

/-- Either nothing offends or something is the first to do so. -/
theorem calm_or_firstOffence (test serial : Trace) :
    (∀ result ∈ test.results, ∀ cause, ¬result.Offends serial cause) ∨
      ∃ result cause, test.FirstOffence serial result cause := by
  unfold Trace.FirstOffence
  induction test.results with
  | nil => exact .inl fun _ inside => nomatch inside
  | cons head rest hypothesis =>
    by_cases offends : ∃ cause, head.Offends serial cause
    · obtain ⟨cause, offends⟩ := offends
      exact .inr ⟨head, cause, [], rest, rfl, fun _ inside => (nomatch inside), offends⟩
    · rw [not_exists] at offends
      rcases hypothesis with calm | ⟨result, cause, before, after, all, calm, first⟩
      · exact .inl (List.forall_mem_cons.2 ⟨offends, calm⟩)
      · exact .inr ⟨result, cause, head :: before, after, by rw [all]; rfl,
          List.forall_mem_cons.2 ⟨offends, calm⟩, first⟩

end Comparison

open Comparison in
/-- The comparison of worded traces is decided by the first result that offends: it fails exactly if
that result has no counterpart, and names its statement; otherwise the verdict names its statement
and the reason by the rules, whatever follows and whatever the tables are. If nothing offends, the
traces are consistent exactly if they agree about every table, and the first table in the order of
names about which they do not agree is reported. -/
theorem compare_by_first_offence {test serial : Trace} (worded : test.Worded)
    (worded' : serial.Worded) :
    (∀ statement, compare test serial = .error (.noCounterpart statement) ↔
        ∃ result, test.FirstOffence serial result none ∧ result.statement = statement) ∧
      (∀ result reason, test.FirstOffence serial result (some reason) →
        ∃ finding, compare test serial = .ok (.inconsistent finding) ∧
          finding.statement = some result.statement ∧ finding.reason = reason) ∧
      ((∀ result ∈ test.results, ∀ cause, ¬result.Offends serial cause) →
        (compare test serial = .ok .consistent ↔
            ∀ name, test.finalState.AgreeOn serial.finalState name) ∧
          ∀ name, ¬test.finalState.AgreeOn serial.finalState name →
            (∀ other < name, test.finalState.AgreeOn serial.finalState other) →
              ∃ finding, compare test serial = .ok (.inconsistent finding) ∧
                finding.reason = .finalState ∧ finding.statement = none ∧
                  finding.evidence.lookup "table" = some (.text name)) := by
  refine ⟨fun statement => ⟨fun failed => ?_, ?_⟩, ?_, fun calm => ?_⟩
  · rcases calm_or_firstOffence test serial with calm | ⟨result, cause, first⟩
    · rw [compare_of_calm worded worded' calm] at failed
      cases failed
    · cases cause with
      | none =>
        rw [compare_of_missing worded worded' first] at failed
        cases failed
        exact ⟨result, first, rfl⟩
      | some reason =>
        obtain ⟨finding, found, _⟩ := compare_of_differs worded worded' first
        rw [found] at failed
        cases failed
  · rintro ⟨result, first, rfl⟩
    exact compare_of_missing worded worded' first
  · exact fun result reason first => compare_of_differs worded worded' first
  · rw [compare_of_calm worded worded' calm]
    constructor
    · rw [← finalVerdict_eq_consistent, Except.ok.injEq]
    · intro name differs first
      obtain ⟨finding, found, facts⟩ := finalVerdict_of_first differs first
      exact ⟨finding, by rw [found], facts⟩

namespace Sample

/-- A reading statement of the first transaction at the given place. -/
def readAt (place : Int) : Statement where
  transaction := .integer 1
  index := .integer place
  kind := .select
  text := .text "SELECT * FROM t0"

/-- A test run in which a statement waited, one met a lock conflict with a warning, one read rows that
the serial run does not have, and the last one is of no statement of the serial run. -/
def troubled : Trace where
  results :=
    [{ statement := readAt 0, blocked := .boolean true, error := .text "boom" },
      { statement := readAt 1, error := .text "Deadlock detected", warning := .text "slow" },
      { statement := readAt 2, rows := some [.row [.integer 1], .row [.integer 2]] },
      { statement := readAt 3, rows := some [.row [.text "1"]] },
      { statement := readAt 4 }]
  finalState := [("t0", some [])]

/-- A serial run of the first four of these statements. -/
def smooth : Trace where
  results :=
    [{ statement := readAt 0 }, { statement := readAt 1 },
      { statement := readAt 2, rows := some [.row [.integer 2], .row [.integer 1]] },
      { statement := readAt 3, rows := some [.row [.text "2"]] }]

/-- The reports of both runs are texts. -/
theorem troubled_worded : troubled.Worded ∧ smooth.Worded := by
  have silent : Value.null.IsReport := ⟨none, rfl⟩
  have said (report : String) : (Value.text report).IsReport := ⟨some report, rfl⟩
  constructor <;> intro result inside <;>
    simp only [troubled, smooth, List.mem_cons, List.not_mem_nil, or_false] at inside
  · rcases inside with rfl | rfl | rfl | rfl | rfl
    · exact ⟨said _, silent⟩
    · exact ⟨said _, said _⟩
    all_goals exact ⟨silent, silent⟩
  · rcases inside with rfl | rfl | rfl | rfl <;> exact ⟨silent, silent⟩

end Sample

/-- What waited, met a lock conflict or read the same rows in another order does not offend; the first
result with other rows decides, whatever follows. -/
theorem compare_troubled :
    ∃ finding, Comparison.compare Sample.troubled Sample.smooth = .ok (.inconsistent finding) ∧
      finding.statement = some (Sample.readAt 3) ∧ finding.reason = .resultSet := by
  obtain ⟨worded, worded'⟩ := Sample.troubled_worded
  refine (compare_by_first_offence worded worded').2.1
    { statement := Sample.readAt 3, rows := some [.row [.text "1"]] } .resultSet
    ⟨Sample.troubled.results.take 3, Sample.troubled.results.drop 4, rfl, ?_, rfl, _, rfl, ?_⟩
  · intro earlier inside
    have held := worded earlier (List.mem_of_mem_take inside)
    simp only [Sample.troubled, List.take_succ_cons, List.take_zero, List.mem_cons,
      List.not_mem_nil, or_false] at inside
    rcases inside with rfl | rfl | rfl
    · rintro (_ | _) ⟨unblocked, _⟩ <;> cases unblocked
    · exact Comparison.not_offends_of_passes held
        (worded' { statement := Sample.readAt 1 } (by simp [Sample.smooth])) rfl rfl
    · exact Comparison.not_offends_of_passes held
        (worded' { statement := Sample.readAt 2, rows := some [.row [.integer 2], .row [.integer 1]] }
          (by simp [Sample.smooth])) rfl rfl
  · refine .resultSet rfl rfl rfl ?_
    decide

end SerialCheck

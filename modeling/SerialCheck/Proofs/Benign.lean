import SerialCheck.Proofs.Rearranged

/-!
# Benign errors of the test run alone

Concurrent execution can legitimately produce lock conflicts and changes of the schema under a
statement. Of these, the comparison passes over the lock conflicts: at a lock conflict that only the
test run reports nothing is found, whatever the other results are. A change of the schema is held
against the test run like any other error (`benign_error_alone`).
-/
namespace SerialCheck

/-- The benign classes are the lock conflicts and the change of the schema. -/
theorem ErrorClass.isLockConflict_eq (kind : ErrorClass) :
    kind.isLockConflict = (kind.isBenign && kind != .schemaChanged) := by
  cases kind <;> rfl

namespace Comparison

section

variable {result counterpart : StatementResult} {report : String}
  (failed : result.error = .text report) (silent : counterpart.error = .null)

include failed silent

/-- An error that only the test run reports is passed over if it is a lock conflict, and nothing else
about the statement is looked at. -/
theorem statementFinding?_of_alone :
    statementFinding? result counterpart =
      .ok (if SerialCheck.isLockConflict report then none
        else some (errorFinding .errorReporting "Inconsistent reporting error" result counterpart)) := by
  have alone : result.failed ≠ counterpart.failed := by
    unfold StatementResult.failed
    rw [failed, silent]
    simp
  have classified : result.isLockConflict = .ok (SerialCheck.isLockConflict report) := by
    unfold StatementResult.isLockConflict
    rw [failed]
  rw [statementFinding?, if_pos alone, classified]
  rfl

end

/-- Results in which no difference is found are passed over. -/
theorem firstFinding?_append_of_none {run : Trace} {before rest : List StatementResult}
    (calm : firstFinding? run before = .ok none) :
    firstFinding? run (before ++ rest) = firstFinding? run rest := by
  induction before with
  | nil => rfl
  | cons test before hypothesis =>
    rw [List.cons_append, firstFinding?]
    rw [firstFinding?] at calm
    split at calm
    next blocked => rw [if_pos blocked, hypothesis calm]
    next unblocked =>
      rw [if_neg unblocked]
      split at calm
      · cases calm
      · split at calm
        · cases calm
        · cases calm
        · exact hypothesis calm

/-- A verdict that names a statement found a difference at one of its results. -/
theorem of_compare_inconsistent {test serial : Trace} {finding : Finding} {statement : Statement}
    (verdict : compare test serial = .ok (.inconsistent finding))
    (named : finding.statement = some statement) :
    ∃ result ∈ test.results, result.statement = statement ∧
      ∃ counterpart, serial.resultFor? statement = some counterpart ∧
        statementFinding? result counterpart = .ok (some finding) := by
  cases found : firstFinding? serial test.results with
  | error cause =>
    rw [compare, found] at verdict
    cases verdict
  | ok first =>
    rw [compare, found] at verdict
    cases first with
    | none =>
      have unnamed := statement_of_finalVerdict (Except.ok.inj verdict)
      rw [unnamed] at named
      cases named
    | some first =>
      obtain rfl : first = finding := by cases verdict; rfl
      obtain ⟨result, inside, _, counterpart, met, differs⟩ := of_firstFinding found
      have same : result.statement = statement := by
        rw [statement_of_statementFinding differs] at named
        exact Option.some.inj named
      rw [same] at met
      exact ⟨result, inside, same, counterpart, met, differs⟩

end Comparison

open Comparison in
/-- Let a result of the test run that was not blocked have a benign error that its counterpart in the
serial run does not have. If the error is no change of the schema, no verdict names the statement. If it
is one, the verdict names the statement as soon as no earlier result decides. -/
theorem benign_error_alone {test serial : Trace} {before after : List StatementResult}
    {result counterpart : StatementResult} {report : String} (clear : test.Unambiguous)
    (all : test.results = before ++ result :: after) (unblocked : result.isBlocked = false)
    (failed : result.error = .text report)
    (met : serial.resultFor? result.statement = some counterpart)
    (silent : counterpart.error = .null) (benign : (ErrorClass.ofReport report).isBenign = true) :
    (ErrorClass.ofReport report ≠ .schemaChanged →
        ∀ finding, Comparison.compare test serial = .ok (.inconsistent finding) →
          finding.statement ≠ some result.statement) ∧
      (ErrorClass.ofReport report = .schemaChanged →
        firstFinding? serial before = .ok none →
          Comparison.compare test serial = .ok (.inconsistent
            (errorFinding .errorReporting "Inconsistent reporting error" result counterpart))) := by
  have alone := statementFinding?_of_alone failed silent
  rw [SerialCheck.isLockConflict, ErrorClass.isLockConflict_eq, benign, Bool.true_and] at alone
  constructor
  · intro conflict finding verdict named
    obtain ⟨other, inside, same, counterpart', met', differs⟩ :=
      of_compare_inconsistent verdict named
    have mine : result ∈ test.results := all ▸ List.mem_append_right before List.mem_cons_self
    have other_eq : other = result :=
      clear result.statement ⟨inside, same ▸ Statement.alike_refl _⟩
        ⟨mine, Statement.alike_refl _⟩
    have counterpart_eq : counterpart' = counterpart := by
      rw [met] at met'
      exact (Option.some.inj met').symm
    rw [other_eq, counterpart_eq, alone, if_pos (bne_iff_ne.2 conflict)] at differs
    cases differs
  · intro changed calm
    have found : firstFinding? serial test.results = .ok (some
        (errorFinding .errorReporting "Inconsistent reporting error" result counterpart)) := by
      rw [all, firstFinding?_append_of_none calm, firstFinding?, unblocked, met]
      simp [alone, changed]
    rw [Comparison.compare, found]
    rfl

namespace Sample

/-- A test run in which one statement met a deadlock and another one a change of the schema. -/
def disturbed : Trace where
  results :=
    [{ statement := ofKind .update, error := .text "ERROR: Deadlock Detected" },
      { statement := ofKind .select,
        error := .text "ERROR: Cached plan must not change result type" }]

/-- A serial run of the same statements without errors. -/
def undisturbed : Trace where
  results := [{ statement := ofKind .update }, { statement := ofKind .select, rows := some [] }]

end Sample

open Comparison Sample in
/-- The deadlock is passed over, and the change of the schema behind it is reported. -/
theorem benign_error_alone_disturbed :
    ∃ finding, Comparison.compare disturbed undisturbed = .ok (.inconsistent finding) ∧
      finding.statement = some (ofKind .select) ∧ finding.statement ≠ some (ofKind .update) := by
  have clear : disturbed.Unambiguous := unambiguous_of_kinds (by decide)
  have deadlock := (@benign_error_alone disturbed undisturbed [] _ _ _ _ clear rfl rfl rfl rfl rfl
    (by decide +kernel)).1 (by decide +kernel)
  have change := (@benign_error_alone disturbed undisturbed (disturbed.results.take 1) [] _ _ _ clear
    rfl rfl rfl rfl rfl (by decide +kernel)).2 (by decide +kernel) rfl
  exact ⟨_, change, rfl, deadlock _ change⟩

open Sample in
/-- An error that the classes call benign and that only the test run reports can be found at its
statement. -/
theorem schema_change_reported :
    ∃ result ∈ disturbed.results, ∃ counterpart report finding,
      result.isBlocked = false ∧ result.error = .text report ∧
        undisturbed.resultFor? result.statement = some counterpart ∧ counterpart.error = .null ∧
          (ErrorClass.ofReport report).isBenign = true ∧
            Comparison.compare disturbed undisturbed = .ok (.inconsistent finding) ∧
              finding.statement = some result.statement ∧ finding.reason = .errorReporting := by
  refine ⟨_, List.mem_cons_of_mem _ List.mem_cons_self, _, _, _, rfl, rfl, rfl, rfl, ?_, rfl, rfl, rfl⟩
  decide +kernel

end SerialCheck

import SerialCheck.Proofs.Consistent
import SerialCheck.Proofs.FirstOffence

/-!
# What a comparison does not depend on

The order of rows, of tables and of the results of a serial run is an accident of how they were
collected, and what a blocked statement reported is one of its timing. Traces that differ in nothing
else come to the same: the comparison fails in the same way, or reaches a verdict with the same reason,
statement and words (`compare_rearranged`). Only the evidence, which shows rows as they came, may
differ.
-/
namespace SerialCheck

/-! ## Rows -/

namespace Rows

/-- Result sets that have the same rows, each as often, or that are both missing. -/
def Rearranged : Option Rows → Option Rows → Prop := Option.Rel List.Perm

/-- The canonical texts of rows do not depend on the order of the rows. -/
theorem normalized_of_perm {rows others : Rows} (permuted : rows.Perm others) :
    normalized rows = normalized others :=
  sortTexts_eq_iff.2 (permuted.map canonical)

/-- The difference of two result sets does not depend on the order of their rows, and neither do the
place and the rows that it names. -/
theorem difference?_of_rearranged {left left' right right' : Option Rows}
    (lefts : Rearranged left left') (rights : Rearranged right right') :
    difference? left right = difference? left' right' := by
  cases lefts with
  | none => cases rights <;> rfl
  | some permuted =>
    cases rights with
    | none => rfl
    | some permuted' =>
      have sizes := permuted.length_eq
      have sizes' := permuted'.length_eq
      rw [difference?, difference?, sizes, sizes', normalized_of_perm permuted,
        normalized_of_perm permuted']

end Rows

/-! ## Tables -/

namespace Contents

/-- Every table is listed once. -/
def Distinct (tables : Contents) : Prop := (tables.map Prod.fst).Nodup

instance (tables : Contents) : Decidable tables.Distinct :=
  inferInstanceAs (Decidable (tables.map Prod.fst).Nodup)

/-- The tables are the same in another order, and each has the same rows in another order. -/
def Rearranged (tables others : Contents) : Prop :=
  ∃ moved, tables.Perm moved ∧
    List.Forall₂ (fun one other => one.1 = other.1 ∧ Rows.Rearranged one.2 other.2) moved others

/-- What is listed under a name is what a search for the name finds. -/
theorem lookup_eq_find? (tables : Contents) (name : String) :
    tables.lookup name = (tables.find? fun table => name == table.1).map Prod.snd := by
  induction tables with
  | nil => rfl
  | cons table rest hypothesis =>
    rw [List.lookup_cons, List.find?_cons]
    cases name == table.1 with
    | true => rfl
    | false => exact hypothesis

/-- A table that is listed once is found in every order of the tables. -/
theorem lookup_of_perm {tables others : Contents} (distinct : tables.Distinct)
    (permuted : tables.Perm others) (name : String) : tables.lookup name = others.lookup name := by
  have once : {table ∈ tables | (name == table.1) = true}.Subsingleton := by
    intro one ⟨inside, named⟩ other ⟨inside', named'⟩
    apply List.inj_on_of_nodup_map distinct inside inside'
    rw [← beq_iff_eq.1 named, ← beq_iff_eq.1 named']
  rw [lookup_eq_find?, lookup_eq_find?, List.find?_eq_find?_of_perm permuted once]

variable {tables others : Contents} (distinct : tables.Distinct) (same : tables.Rearranged others)

include distinct same

/-- Rearranged tables hold the same rows under every name. -/
theorem Rearranged.lookup (name : String) :
    Option.Rel Rows.Rearranged (tables.lookup name) (others.lookup name) := by
  obtain ⟨moved, permuted, rows⟩ := same
  rw [lookup_of_perm distinct permuted name]
  clear permuted
  induction rows with
  | nil => exact .none
  | cons agree _ hypothesis =>
    rw [List.lookup_cons, List.lookup_cons, agree.1]
    split
    · exact .some agree.2
    · exact hypothesis

omit distinct in
/-- Rearranged tables have the same names. -/
theorem Rearranged.names : (tables.map Prod.fst).Perm (others.map Prod.fst) := by
  obtain ⟨moved, permuted, rows⟩ := same
  have names : moved.map Prod.fst = others.map Prod.fst := by
    clear permuted
    induction rows with
    | nil => rfl
    | cons agree _ hypothesis => rw [List.map_cons, List.map_cons, agree.1, hypothesis]
  rw [← names]
  exact permuted.map Prod.fst

end Contents

/-! ## Traces -/

namespace StatementResult

/-- The results tell the same of a statement: the rows may be in another order, and whether the
statement was sent or had to wait is left open. -/
structure Rearranged (result other : StatementResult) : Prop where
  /-- They are results of the same statement. -/
  statement : result.statement = other.statement
  /-- They report the same error. -/
  error : result.error = other.error
  /-- They report the same warnings. -/
  warning : result.warning = other.warning
  /-- They have the same rows. -/
  rows : Rows.Rearranged result.rows other.rows

/-- The results tell the same of a statement of the test run, where nothing of what a blocked statement
reported counts. -/
structure Retold (result other : StatementResult) : Prop where
  /-- They are results of the same statement. -/
  statement : result.statement = other.statement
  /-- It was blocked in both or in none. -/
  blocked : result.isBlocked = other.isBlocked
  /-- If it was not blocked, they tell the same. -/
  told : result.isBlocked = false → result.Rearranged other

end StatementResult

namespace Trace

/-- No statement has two different results. -/
def Unambiguous (trace : Trace) : Prop :=
  ∀ statement : Statement,
    {result ∈ trace.results | result.statement.alike statement = true}.Subsingleton

/-- The test runs tell the same, result by result and table by table; the orders in which transactions
took snapshots and ended and the places at which they were aborted are left open. -/
structure Retold (test other : Trace) : Prop where
  /-- Their results tell the same, one after the other. -/
  results : List.Forall₂ StatementResult.Retold test.results other.results
  /-- Their tables are the same. -/
  tables : test.finalState.Rearranged other.finalState

/-- The serial runs tell the same, with their results in any order. -/
structure Rearranged (serial other : Trace) : Prop where
  /-- Their results tell the same, in another order. -/
  results : ∃ moved, serial.results.Perm moved ∧
    List.Forall₂ StatementResult.Rearranged moved other.results
  /-- Their tables are the same. -/
  tables : serial.finalState.Rearranged other.finalState

/-- The result of a statement is found in every order of the results. -/
theorem Rearranged.resultFor? {serial other : Trace} (clear : serial.Unambiguous)
    (same : serial.Rearranged other) (statement : Statement) :
    Option.Rel StatementResult.Rearranged (serial.resultFor? statement)
      (other.resultFor? statement) := by
  obtain ⟨moved, permuted, told⟩ := same.results
  rw [Trace.resultFor?, List.find?_eq_find?_of_perm permuted (clear statement), Trace.resultFor?]
  generalize other.results = results at told
  clear permuted
  induction told with
  | nil => exact .none
  | cons agree _ hypothesis =>
    rw [List.find?_cons, List.find?_cons, agree.statement]
    split
    · exact .some agree
    · exact hypothesis

end Trace

/-! ## Verdicts -/

/-- What a finding says, without the evidence for it. -/
def Finding.said (finding : Finding) : Finding := { finding with evidence := [] }

/-- What a verdict says: that the traces are consistent, or the reason, the statement and the words of
its finding. -/
def Verdict.said : Verdict → Verdict
  | .consistent => .consistent
  | .inconsistent finding => .inconsistent finding.said

namespace Comparison

/-- The comparison of a statement says the same of results that tell the same. -/
theorem statementFinding?_of_rearranged {test test' serial serial' : StatementResult}
    (tests : test.Rearranged test') (serials : serial.Rearranged serial') :
    (statementFinding? test serial).map (Option.map Finding.said) =
      (statementFinding? test' serial').map (Option.map Finding.said) := by
  have rows := Rows.difference?_of_rearranged tests.rows serials.rows
  have effects : (effectFinding? test serial).map Finding.said =
      (effectFinding? test' serial').map Finding.said := by
    unfold effectFinding?
    rw [tests.warning, serials.warning, tests.statement, rows]
    split
    · rw [Option.map_some, Option.map_some]
      unfold Finding.said warningFinding StatementResult.warned
      rw [tests.warning, serials.warning, tests.statement]
    · split
      · simp [Function.comp_def, Finding.said, rowsFinding, tests.statement]
      · rfl
  unfold statementFinding? StatementResult.failed StatementResult.isLockConflict
  rw [tests.error, serials.error]
  split
  · cases test'.error <;>
      simp [Except.map, errorFinding, Finding.said, tests.statement, apply_ite (Option.map Finding.said)]
  · split
    · simp [Except.map, errorFinding, Finding.said, tests.statement]
    · exact congrArg Except.ok effects

section

variable {test test' serial serial' : Trace}

/-- The first difference among the results says the same of runs that tell the same. -/
theorem firstFinding?_of_retold (clear : serial.Unambiguous) (serials : serial.Rearranged serial')
    {results results' : List StatementResult}
    (tests : List.Forall₂ StatementResult.Retold results results') :
    (firstFinding? serial results).map (Option.map Finding.said) =
      (firstFinding? serial' results').map (Option.map Finding.said) := by
  induction tests with
  | nil => rfl
  | @cons test test' _ _ agree _ hypothesis =>
    unfold firstFinding?
    rw [← agree.blocked, ← agree.statement]
    split
    · exact hypothesis
    next unblocked =>
      have told := agree.told (Bool.eq_false_iff.2 unblocked)
      have found := serials.resultFor? clear test.statement
      generalize serial.resultFor? test.statement = met,
        serial'.resultFor? test.statement = met' at found
      cases found with
      | none => rfl
      | @some counterpart counterpart' serials =>
        have compared := statementFinding?_of_rearranged told serials
        dsimp only
        generalize statementFinding? test counterpart = outcome,
          statementFinding? test' counterpart' = outcome' at compared
        rcases outcome with cause | _ | finding <;> rcases outcome' with cause' | _ | finding' <;>
          simp_all [Except.map]

variable (distinct : test.finalState.Distinct) (distinct' : serial.finalState.Distinct)
  (tests : test.finalState.Rearranged test'.finalState)
  (serials : serial.finalState.Rearranged serial'.finalState)

include tests serials

/-- The tables that are compared do not depend on their order. -/
theorem tableNames_of_rearranged :
    tableNames test.finalState serial.finalState =
      tableNames test'.finalState serial'.finalState := by
  have listed := tests.names.append serials.names
  have ascending (texts : List String) := ExpectedErrors.pairwise_distinct texts
  -- both lists ascend and have the same members
  refine List.Perm.eq_of_pairwise (fun one other _ _ below above => absurd above (lt_asymm below))
    (ascending _) (ascending _) ((List.perm_ext_iff_of_nodup ?_ ?_).2 fun name => ?_)
  · exact (ascending _).imp ne_of_lt
  · exact (ascending _).imp ne_of_lt
  · rw [tableNames, tableNames, ExpectedErrors.mem_distinct, ExpectedErrors.mem_distinct,
      listed.mem_iff]

include distinct distinct'

/-- The verdict on the tables says the same of tables that are rearranged. -/
theorem finalVerdict_of_rearranged :
    (finalVerdict test serial).said = (finalVerdict test' serial').said := by
  have contents (name : String) :
      (contentsFinding? test.finalState serial.finalState name).map Finding.said =
        (contentsFinding? test'.finalState serial'.finalState name).map Finding.said := by
    have left := tests.lookup distinct name
    have right := serials.lookup distinct' name
    unfold contentsFinding?
    generalize test.finalState.lookup name = one, test'.finalState.lookup name = one',
      serial.finalState.lookup name = other, serial'.finalState.lookup name = other' at left right
    cases left with
    | none => cases right <;> rfl
    | some rows =>
      cases right with
      | none => rfl
      | some rows' =>
        simp only [Rows.difference?_of_rearranged rows rows', Option.map_map]
        rfl
  have first : ((tableNames test.finalState serial.finalState).findSome?
      (contentsFinding? test.finalState serial.finalState)).map Finding.said =
        ((tableNames test'.finalState serial'.finalState).findSome?
          (contentsFinding? test'.finalState serial'.finalState)).map Finding.said := by
    rw [List.map_findSome?, List.map_findSome?, tableNames_of_rearranged tests serials]
    exact congrArg (List.findSome? · _) (funext contents)
  revert first
  unfold finalVerdict
  rcases List.findSome? (contentsFinding? test.finalState serial.finalState) _ with _ | finding <;>
    rcases List.findSome? (contentsFinding? test'.finalState serial'.finalState) _ with
      _ | finding' <;> intro first <;> simp_all [Verdict.said]

end

end Comparison

open Comparison in
/-- What a comparison comes to does not depend on the order of the results of the serial run, of the
rows inside any result or table, or of the tables; nor on the orders and places at which transactions
took snapshots, ended or were aborted, on which statements were sent, or on what blocked statements of
the test run reported: it fails in the same way, or its verdict says the same. A trace is consistent
with itself. -/
theorem compare_rearranged {test test' serial serial' : Trace} (clear : test.Unambiguous)
    (clear' : serial.Unambiguous) (distinct : test.finalState.Distinct)
    (distinct' : serial.finalState.Distinct) (tests : test.Retold test')
    (serials : serial.Rearranged serial') :
    (compare test serial).map Verdict.said = (compare test' serial').map Verdict.said ∧
      compare test test = .ok .consistent := by
  constructor
  · have results := firstFinding?_of_retold clear' serials tests.results
    have tables := finalVerdict_of_rearranged distinct distinct' tests.tables serials.tables
    revert results
    unfold Comparison.compare
    rcases firstFinding? serial test.results with cause | _ | finding <;>
      rcases firstFinding? serial' test'.results with cause' | _ | finding' <;>
      intro results <;> simp_all [Except.map, Verdict.said]
  · have calm : firstFinding? test test.results = .ok none := by
      apply firstFinding_none
      intro result inside _
      have found : (test.resultFor? result.statement).isSome := by
        rw [Trace.resultFor?, List.find?_isSome]
        exact ⟨result, inside, result.statement.alike_refl⟩
      obtain ⟨other, other_found⟩ := Option.isSome_iff_exists.1 found
      have agrees : other.statement.alike result.statement = true := by
        simpa using List.find?_some other_found
      have same : other = result :=
        clear result.statement ⟨List.mem_of_find?_eq_some other_found, agrees⟩
          ⟨inside, result.statement.alike_refl⟩
      exact ⟨result, same ▸ other_found, statementFinding?_self result⟩
    rw [Comparison.compare, calm]
    exact congrArg Except.ok (finalVerdict_of_eq rfl)

namespace Sample

/-- A statement of the first transaction of the given kind. -/
def ofKind (kind : StatementKind) : Statement where
  transaction := .integer 1
  index := .integer 1
  kind := kind
  text := .text kind.name

/-- A test run with one blocked statement and one that read two rows. -/
def collected : Trace where
  results :=
    [{ statement := ofKind .selectForUpdate, blocked := .boolean true, error := .text "boom" },
      { statement := ofKind .select, rows := some [.integer 1, .integer 3] }]
  finalState := [("t0", some [.integer 1, .null]), ("t1", none)]
  completionOrder := [.integer 1]

/-- The same test run, with everything collected in another way. -/
def recollected : Trace where
  results :=
    [{ statement := ofKind .selectForUpdate, blocked := .boolean true, warning := .text "slow" },
      { statement := ofKind .select, rows := some [.integer 3, .integer 1],
        executed := .boolean false }]
  finalState := [("t1", none), ("t0", some [.null, .integer 1])]
  abortedAt := [(.integer 2, .integer 1)]

/-- A serial run in which the reading statement had another row. -/
def replayed : Trace where
  results :=
    [{ statement := ofKind .selectForUpdate, rows := some [] },
      { statement := ofKind .select, rows := some [.integer 2, .integer 1] }]
  finalState := [("t0", some [])]

/-- The same serial run with its results and rows in another order. -/
def rereplayed : Trace where
  results :=
    [{ statement := ofKind .select, rows := some [.integer 1, .integer 2] },
      { statement := ofKind .selectForUpdate, rows := some [] }]
  finalState := [("t0", some [])]
  snapshotOrder := [.integer 1]

/-- Results of statements of different kinds are results of different statements. -/
theorem unambiguous_of_kinds {trace : Trace}
    (kinds : (trace.results.map (·.statement.kind)).Nodup) : trace.Unambiguous := by
  intro statement one ⟨inside, agrees⟩ other ⟨inside', agrees'⟩
  apply List.inj_on_of_nodup_map kinds inside inside'
  simp only [Statement.alike, Bool.and_eq_true, beq_iff_eq] at agrees agrees'
  rw [agrees.1.1.1.2, agrees'.1.1.1.2]

/-- The test run is told in another way. -/
theorem collected_retold : collected.Retold recollected where
  results := by
    apply List.Forall₂.cons
    · exact ⟨rfl, rfl, fun unblocked => absurd unblocked (by decide)⟩
    apply List.Forall₂.cons
    · exact ⟨rfl, rfl, fun _ => ⟨rfl, rfl, rfl, .some (.swap _ _ _)⟩⟩
    exact .nil
  tables :=
    ⟨_, .swap _ _ _, .cons ⟨rfl, .none⟩ (.cons ⟨rfl, .some (.swap _ _ _)⟩ .nil)⟩

/-- The serial run is told in another way. -/
theorem replayed_rearranged : replayed.Rearranged rereplayed where
  results := by
    refine ⟨_, .swap _ _ _, ?_⟩
    apply List.Forall₂.cons
    · exact ⟨rfl, rfl, rfl, .some (.swap _ _ _)⟩
    apply List.Forall₂.cons
    · exact ⟨rfl, rfl, rfl, .some .nil⟩
    exact .nil
  tables := ⟨_, .refl _, .cons ⟨rfl, .some .nil⟩ .nil⟩

end Sample

open Sample in
/-- Two runs that differ in a row of the reading statement are reported at it with the same words, in
whichever way the traces were collected. -/
theorem compare_recollected :
    (Comparison.compare recollected rereplayed).map Verdict.said = .ok (.inconsistent {
      reason := .resultSet
      detail := .text "Inconsistent query result: (1)th values is different [3, 2]"
      statement := some (ofKind .select) }) := by
  have same := (compare_rearranged (unambiguous_of_kinds (by decide))
    (unambiguous_of_kinds (by decide)) (by decide) (by decide) collected_retold
    replayed_rearranged).1
  rw [← same]
  rfl

end SerialCheck

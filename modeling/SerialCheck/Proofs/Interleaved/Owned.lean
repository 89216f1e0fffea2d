import SerialCheck.Check
import SerialCheck.Proofs.Benign

/-!
# Results are of the batch

Whatever the transactions of a batch are known by, an interleaved run records results of their statements
only: each step keeps what the progress holds about the batch (`Progress.Owned`), and so does the whole run
(`Run.owned_interleaved`). So a finding of a check is at a statement of the batch, if it is at one
(`Check.yields_checkBatch`).
-/
namespace SerialCheck

open SerialCheck.Task

namespace Task

variable {α β : Type} {good : α → Prop} {fit : β → Prop}

/-- Whatever the task returns is good. -/
def Yields (task : Task α) (good : α → Prop) : Prop :=
  ∀ bench value after, task.Returns bench value after → good value

theorem yields_any (task : Task α) : Yields task fun _ => True := fun _ _ _ _ => trivial

theorem yields_pure {value : α} (held : good value) : Yields (pure value) good := by
  intro bench result after returned
  rwa [(returns_pure.1 returned).1]

theorem yields_throw (fault : Fault) : Yields (throw fault) good :=
  fun _ _ _ returned => (returns_throw.1 returned).elim

/-- Nothing follows a fault. -/
theorem yields_throw_bind (fault : Fault) (next : α → Task β) : Yields (throw fault >>= next) fit := by
  intro bench result after returned
  obtain ⟨_, _, thrown, _⟩ := returns_bind.1 returned
  exact (returns_throw.1 thrown).elim

/-- What follows goes on with what is yielded. -/
theorem Yields.bind {task : Task α} {next : α → Task β} (first : Yields task good)
    (second : ∀ value, good value → Yields (next value) fit) : Yields (task >>= next) fit := by
  intro bench result after returned
  obtain ⟨value, between, one, two⟩ := returns_bind.1 returned
  exact second value (first bench value between one) between result after two

/-- What follows does so whatever is returned. -/
theorem Yields.after (task : Task α) {next : α → Task β} (second : ∀ value, Yields (next value) fit) :
    Yields (task >>= next) fit :=
  (yields_any task).bind fun value _ => second value

end Task

/-- The statement is one of a transaction of the batch. -/
def Batch.Owns (batch : Batch) (statement : Statement) : Prop :=
  ∃ transaction ∈ batch, statement ∈ transaction.statements

/-- All results of the trace are of statements of the batch. -/
def Trace.Owned (batch : Batch) (trace : Trace) : Prop :=
  ∀ result ∈ trace.results, batch.Owns result.statement

/-- What is recorded and what is parked are statements of the batch. -/
structure Progress.Owned (batch : Batch) (progress : Progress) : Prop where
  /-- The results are. -/
  results : progress.trace.Owned batch
  /-- So is what is parked. -/
  parked : ∀ parked ∈ progress.parked, batch.Owns parked.statement

namespace Run

variable {batch : Batch} {progress : Progress} {transaction : OpenTransaction} {statement : Statement}

/-- A result is added that is of the batch. -/
theorem owned_record {trace : Trace} (owned : trace.Owned batch) {result : StatementResult}
    (owns : batch.Owns result.statement) : (trace.record result).Owned batch := by
  intro other member
  rcases List.mem_append.1 member with earlier | new
  · exact owned other earlier
  · rwa [List.mem_singleton.1 new]

/-- The transaction that is found is one of the batch. -/
theorem yields_member (batch : Batch) (id : Value) : Yields (member batch id) (· ∈ batch) := by
  unfold member
  cases id.unfit? with
  | some cause => split <;> exact yields_throw_bind _ _
  | none =>
    split
    next transaction found =>
      exact yields_pure (List.mem_reverse.1 (List.mem_of_find?_eq_some found))
    · exact yields_throw _

/-- An abort records the statements behind it as results. -/
theorem yields_abortAt (member : transaction ∈ batch) (owned : progress.Owned batch) (report : String) :
    Yields (abortAt transaction statement report progress) (Progress.Owned batch) := by
  refine Yields.after _ fun _ => Yields.after _ fun _ => yields_pure ⟨?_, owned.parked⟩
  intro result listed
  rcases List.mem_append.1 listed with earlier | new
  · exact owned.results result earlier
  · obtain ⟨skipped, inside, rfl⟩ := List.mem_map.1 new
    exact ⟨transaction, member, List.mem_of_mem_drop inside⟩

theorem owned_noteEnd (owned : progress.Owned batch) :
    (noteEnd transaction statement progress).Owned batch := by
  unfold noteEnd
  split
  · exact ⟨owned.results, owned.parked⟩
  · exact owned

/-- An outcome is recorded as a result of its statement. -/
theorem yields_record (member : transaction ∈ batch) (owns : batch.Owns statement)
    (owned : progress.Owned batch) (outcome : Outcome) (blocked : Bool) :
    Yields (record transaction statement outcome blocked progress) (Progress.Owned batch) := by
  have recorded : Progress.Owned batch
      { progress with trace := progress.trace.record (resultOf statement outcome blocked) } :=
    ⟨owned_record owned.results owns, owned.parked⟩
  have ended : ∀ progress : Progress, progress.Owned batch →
      Yields (pure (noteEnd transaction statement progress) : Task Progress) (Progress.Owned batch) :=
    fun progress owned => yields_pure (owned_noteEnd owned)
  refine Yields.after _ fun _ => ?_
  dsimp only
  split
  · exact ended _ recorded
  · split
    · exact (yields_abortAt member recorded _).bind ended
    · exact ended _ recorded

theorem yields_settle {waiting : List Parked} (owned : progress.Owned batch)
    (theirs : ∀ parked ∈ waiting, batch.Owns parked.statement) :
    Yields (settle batch waiting progress) (Progress.Owned batch) := by
  induction waiting generalizing progress with
  | nil => exact yields_pure owned
  | cons parked waiting hypothesis =>
    have others := fun other inside => theirs other (List.mem_cons_of_mem _ inside)
    refine Yields.after _ fun bench => ?_
    split
    · refine (yields_member batch _).bind fun transaction member => Yields.after _ fun outcome => ?_
      have left : Progress.Owned batch
          { progress with parked := progress.parked.filter fun other => !other.id.alike parked.id } :=
        ⟨owned.results, fun other inside => owned.parked other (List.mem_filter.1 inside).1⟩
      refine (yields_record member (theirs parked List.mem_cons_self) left outcome true).bind ?_
      exact fun progress owned => hypothesis owned others
    · exact hypothesis owned others

/-- One of those that can continue is picked. -/
theorem yields_pick (first : OpenTransaction) (others : Batch) :
    Yields (pick first others) (· ∈ first :: others) := by
  refine Yields.after _ fun bench => ?_
  split
  · intro bench transaction after returned
    rw [(returns_draw.1 returned).1]
    exact Draw.oneOf_mem first others _
  next schedule _ =>
    refine Yields.after _ fun _ => yields_pure ?_
    cases schedule with
    | nil => exact List.mem_cons_self
    | cons id schedule =>
      show ((first :: others).find? fun transaction => transaction.id.alike id).getD first ∈ _
      cases found : (first :: others).find? fun transaction => transaction.id.alike id with
      | none => exact List.mem_cons_self
      | some transaction => exact List.mem_of_find?_eq_some found

theorem yields_sendNext (member : transaction ∈ batch) (owned : progress.Owned batch) :
    Yields (sendNext transaction progress) (Progress.Owned batch) := by
  unfold sendNext
  split
  next statement found =>
    have owns : batch.Owns statement := ⟨transaction, member, List.mem_of_getElem? found⟩
    have noted (trace : Trace) (held : trace.Owned batch) (id : Value) :
        (noteSnapshot trace id statement).Owned batch := by
      unfold noteSnapshot
      split
      · exact held
      · exact held
    have sent : Progress.Owned batch
        { progress.setSent transaction.id (progress.sent transaction.id + 1) with
          trace := noteSnapshot progress.trace transaction.id statement } :=
      ⟨noted _ owned.results _, owned.parked⟩
    refine Yields.after _ fun reply => Yields.after _ fun finish => Yields.after _ fun bench => ?_
    refine Yields.after _ fun finished => ?_
    split
    · exact Yields.after _ fun outcome => yields_record member owns sent outcome false
    · refine Yields.after _ fun _ => yields_pure ⟨sent.results, fun parked inside => ?_⟩
      rcases List.mem_append.1 inside with earlier | new
      · exact sent.parked parked earlier
      · rw [List.mem_singleton.1 new]
        exact owns
  · exact yields_pure owned

theorem yields_steps (owned : progress.Owned batch) (count : Nat) :
    Yields (steps batch count progress) (Trace.Owned batch) := by
  induction count generalizing progress with
  | zero => exact yields_throw _
  | succ count hypothesis =>
    refine (yields_settle owned owned.parked).bind fun progress owned => ?_
    split
    next first others runnable =>
      refine (yields_pick first others).bind fun transaction picked => ?_
      have member : transaction ∈ batch := by
        rw [← runnable] at picked
        exact (List.mem_filter.1 picked).1
      exact (yields_sendNext member owned).bind fun progress owned => hypothesis owned
    · exact Yields.after _ fun _ => hypothesis owned
    · exact yields_pure owned.results

/-- An interleaved run records results of statements of the batch only. -/
theorem owned_interleaved (batch : Batch) (reference : Option Trace) (order : Value) :
    Yields (run batch .interleaved reference order) (Trace.Owned batch) := by
  have begun : Progress.Owned batch {} := ⟨by simp [Trace.Owned], by simp⟩
  have ran : Yields (byStrategy batch reference order .interleaved) (Trace.Owned batch) :=
    Yields.after get fun bench => yields_steps begun _
  refine Yields.after Bench.reproduce fun _ => Yields.after (Task.log _ _) fun _ => ?_
  split
  · exact yields_throw_bind _ _
  · exact ran.bind fun trace owned => Yields.after _ fun _ => yields_pure owned

end Run

namespace Check

/-- A finding is at a statement of the batch, if it is at one. -/
def FoundIn (batch : Batch) : Verdict → Prop
  | .consistent => True
  | .inconsistent finding => ∀ statement ∈ finding.statement, batch.Owns statement

theorem yields_compare {batch : Batch} {test : Trace} (owned : test.Owned batch) (serial : Trace) :
    Yields (compare test serial) (FoundIn batch) := by
  unfold compare
  split
  next verdict compared =>
    refine yields_pure ?_
    cases verdict with
    | consistent => trivial
    | inconsistent finding =>
      intro statement named
      obtain ⟨result, member, rfl, _⟩ := Comparison.of_compare_inconsistent compared named
      exact owned result member
  · exact yields_throw _

/-- The first finding is returned, and it is one of a comparison with the test run. -/
theorem yields_searchOrders {batch : Batch} {test : Trace} (owned : test.Owned batch)
    {first : Option Finding} (found : ∀ finding ∈ first, FoundIn batch (.inconsistent finding))
    (orders : List (List Value)) : Yields (searchOrders batch test first orders) (FoundIn batch) := by
  induction orders generalizing first with
  | nil =>
    refine yields_pure ?_
    cases first with
    | none => trivial
    | some finding => exact found finding rfl
  | cons order orders hypothesis =>
    refine Yields.after _ fun serial => (yields_compare owned serial).bind fun verdict compared => ?_
    cases verdict with
    | consistent => exact yields_pure trivial
    | inconsistent finding =>
      refine Yields.after _ fun _ => hypothesis fun other known => ?_
      cases first with
      | none =>
        cases known
        exact compared
      | some earlier => exact found other known

/-- What a check finds at a statement, it finds at one of the batch. -/
theorem yields_checkBatch (batch : Batch) : Yields (checkBatch batch) (FoundIn batch) := by
  refine Yields.after _ fun _ => (Run.owned_interleaved batch none .null).bind fun test owned => ?_
  refine Yields.after _ fun bench => Yields.after _ fun limit => ?_
  exact yields_searchOrders owned (by simp) _

end Check

end SerialCheck

import SerialCheck.Proofs.Interleaved.Sending
import SerialCheck.Proofs.Numbered

/-!
# What a progress holds about one transaction

A `View` is the part of a progress that is about the transaction with one number. Recording an
outcome, noting a sent statement, parking and settling change the view of their transaction in the
way told by the functions of the same names, and no view of a transaction with another number.
-/
namespace SerialCheck

namespace Value

variable {α : Type}

/-- What was put under a value is found there. -/
theorem lookup_put_self (key : Value) (item : α) (entries : List (Value × α)) :
    lookup key (put key item entries) = some item := by
  unfold put
  cases found : lookup key entries with
  | none => simp [lookup_append, found, lookup, alike_refl]
  | some held =>
    simp only [Option.isSome_some, ↓reduceIte]
    induction entries with
    | nil => cases found
    | cons entry rest hypothesis =>
      obtain ⟨other, other_item⟩ := entry
      by_cases same : other.alike key = true
      · simp [lookup, same]
      · simp only [lookup, same, Bool.false_eq_true, ↓reduceIte, List.map_cons] at found ⊢
        exact hypothesis found

/-- What is found under a number is not changed by what is put under another one. -/
theorem lookup_put_other {key other : Value} {item : α} {entries : List (Value × α)}
    (whole : key.IsWhole) (another : other.IsWhole) (apart : key ≠ other)
    (keys : ∀ entry ∈ entries, entry.1.IsWhole) :
    lookup other (put key item entries) = lookup other entries := by
  unfold put
  split
  next present =>
    clear present
    induction entries with
    | nil => rfl
    | cons entry rest hypothesis =>
      obtain ⟨name, held⟩ := entry
      have known : name.IsWhole := keys _ List.mem_cons_self
      have others := hypothesis fun entry member => keys entry (List.mem_cons_of_mem _ member)
      by_cases same : name.alike key = true
      · have different : name.alike other = false := by
          rw [(known.alike_iff whole).1 same]
          exact whole.not_alike another apart
        simp [lookup, same, different, others]
      · simp [lookup, same, others]
  next =>
    rw [lookup_append]
    simp [lookup, whole.not_alike another apart]

/-- Putting an item under a number leaves every entry under a number. -/
theorem forall_key_put {key : Value} {item : α} {entries : List (Value × α)} (good : Value → Prop)
    (fits : good key) (keys : ∀ entry ∈ entries, good entry.1) :
    ∀ entry ∈ put key item entries, good entry.1 := by
  intro entry member
  unfold put at member
  split at member
  · obtain ⟨held, known, rfl⟩ := List.mem_map.1 member
    split <;> exact keys held known
  · rcases List.mem_append.1 member with known | new
    · exact keys entry known
    · rw [List.mem_singleton.1 new]
      exact fits

end Value

/-- The part of a progress that is about one transaction. -/
structure View where
  /-- Its results. -/
  results : List StatementResult := []
  /-- What it has parked. -/
  parked : List Parked := []
  /-- The place at which it was aborted. -/
  abort : Option Value := none
  /-- How many of its statements have been sent or given up. -/
  sent : Nat := 0
  /-- Its number, as often as it took its snapshot. -/
  snapshots : List Value := []
  /-- Its number, as often as it ended. -/
  ends : List Value := []

/-- The part of a progress that is about the transaction with a number. -/
def Progress.view (progress : Progress) (id : Value) : View where
  results := progress.trace.results.filter (·.statement.transaction.alike id)
  parked := progress.parked.filter (·.id.alike id)
  abort := progress.trace.abortOf? id
  sent := progress.sent id
  snapshots := progress.trace.snapshotOrder.filter (·.alike id)
  ends := progress.trace.completionOrder.filter (·.alike id)

namespace View

/-- The view with the result of a statement. -/
def withResult (view : View) (result : StatementResult) : View :=
  { view with results := view.results ++ [result] }

/-- The view with the transaction aborted at a statement. -/
def aborted (view : View) (transaction : OpenTransaction) (statement : Statement) : View :=
  { view with
    results :=
      view.results ++
        (Run.behind transaction.toTransaction statement.index).map (Run.skipped · true)
    abort := some statement.index
    sent := transaction.size }

/-- The view with the end of the transaction noted, if it has ended. -/
def noteEnd (view : View) (transaction : OpenTransaction) (statement : Statement) : View :=
  if view.abort.isSome || statement.index.alike (.integer ((transaction.size : Int) - 1)) then
    { view with ends := view.ends ++ [transaction.id] }
  else view

/-- The view with the outcome of a statement. -/
def account (view : View) (transaction : OpenTransaction) (statement : Statement)
    (outcome : Outcome) (blocked : Bool) : View :=
  let recorded := view.withResult (Run.resultOf statement outcome blocked)
  noteEnd (if outcome.conflicts then recorded.aborted transaction statement else recorded)
    transaction statement

/-- The view with one more statement of the transaction sent. -/
def noteSent (view : View) (transaction : OpenTransaction) (statement : Statement) : View :=
  { view with
    sent := view.sent + 1
    snapshots := view.snapshots ++ if statement.takesSnapshot then [transaction.id] else [] }

end View

namespace Progress

variable {progress : Progress} {transaction : OpenTransaction} {statement : Statement} {id : Value}

/-- A result changes the view of its transaction. -/
theorem view_withResult {result : StatementResult} (own : result.statement.transaction = id) :
    (progress.withResult result).view id = (progress.view id).withResult result := by
  simp [view, View.withResult, withResult, Trace.record, List.filter_append, own, Value.alike_refl,
    Trace.abortOf?]

/-- A result changes no view of another transaction. -/
theorem view_withResult_other {result : StatementResult}
    (apart : result.statement.transaction.alike id = false) :
    (progress.withResult result).view id = progress.view id := by
  simp [view, withResult, Trace.record, List.filter_append, apart, Trace.abortOf?]

/-- The statements that are given up are of the same transaction. -/
theorem mem_of_mem_behind {transaction : Transaction} {place : Value} {statement : Statement}
    (member : statement ∈ Run.behind transaction place) : statement ∈ transaction.statements :=
  List.mem_of_mem_drop member

/-- An abort changes the view of its transaction. -/
theorem view_aborted (numbered : transaction.Numbered) :
    (progress.aborted transaction statement).view transaction.id =
      (progress.view transaction.id).aborted transaction statement := by
  have own : ((Run.behind transaction.toTransaction statement.index).map (Run.skipped · true)).filter
      (·.statement.transaction.alike transaction.id) =
        (Run.behind transaction.toTransaction statement.index).map (Run.skipped · true) := by
    refine List.filter_eq_self.2 fun result member => ?_
    obtain ⟨skipped, known, rfl⟩ := List.mem_map.1 member
    show skipped.transaction.alike transaction.id = true
    rw [numbered.transaction_eq (mem_of_mem_behind known)]
    exact Value.alike_refl _
  simp [view, View.aborted, aborted, setSent, Run.abort, Run.skipAll, List.filter_append, own,
    Value.alike_refl, Trace.abortOf?, Value.lookup_put_self]

/-- An abort changes no view of another transaction. -/
theorem view_aborted_other (numbered : transaction.Numbered) (whole : id.IsWhole)
    (apart : transaction.id ≠ id) (keys : ∀ entry ∈ progress.trace.abortedAt, entry.1.IsWhole) :
    (progress.aborted transaction statement).view id = progress.view id := by
  have none : ((Run.behind transaction.toTransaction statement.index).map (Run.skipped · true)).filter
      (·.statement.transaction.alike id) = [] := by
    refine List.filter_eq_nil_iff.2 fun result member => ?_
    obtain ⟨skipped, known, rfl⟩ := List.mem_map.1 member
    show ¬ skipped.transaction.alike id = true
    rw [numbered.transaction_eq (mem_of_mem_behind known), numbered.id.not_alike whole apart]
    exact Bool.false_ne_true
  simp [view, aborted, setSent, Run.abort, Run.skipAll, List.filter_append, none,
    whole.not_alike numbered.id apart.symm, Trace.abortOf?,
    Value.lookup_put_other numbered.id whole apart keys]

/-- The end of a transaction changes its view. -/
theorem view_noteEnd :
    (Run.noteEnd transaction statement progress).view transaction.id =
      (progress.view transaction.id).noteEnd transaction statement := by
  have ended : Run.hasEnded transaction statement progress.trace =
      ((progress.view transaction.id).abort.isSome ||
        statement.index.alike (.integer ((transaction.size : Int) - 1))) := rfl
  unfold Run.noteEnd View.noteEnd
  rw [ended]
  split
  · simp [view, Trace.complete, List.filter_append, Value.alike_refl, Trace.abortOf?]
  · rfl

/-- The end of a transaction changes no view of another one. -/
theorem view_noteEnd_other (apart : transaction.id.alike id = false) :
    (Run.noteEnd transaction statement progress).view id = progress.view id := by
  unfold Run.noteEnd
  split
  · simp [view, Trace.complete, List.filter_append, apart, Trace.abortOf?]
  · rfl

/-- The outcome of a statement changes the view of its transaction. -/
theorem view_account (numbered : transaction.Numbered) (own : statement ∈ transaction.statements)
    {outcome : Outcome} {blocked : Bool} :
    (progress.account transaction statement outcome blocked).view transaction.id =
      (progress.view transaction.id).account transaction statement outcome blocked := by
  have named : statement.transaction = transaction.id := numbered.transaction_eq own
  unfold account View.account
  rw [view_noteEnd]
  split
  · rw [view_aborted numbered, view_withResult named]
  · rw [view_withResult named]

/-- The outcome of a statement changes no view of another transaction. -/
theorem view_account_other (numbered : transaction.Numbered)
    (own : statement ∈ transaction.statements) (whole : id.IsWhole) (apart : transaction.id ≠ id)
    (keys : ∀ entry ∈ progress.trace.abortedAt, entry.1.IsWhole) {outcome : Outcome}
    {blocked : Bool} :
    (progress.account transaction statement outcome blocked).view id = progress.view id := by
  have different : transaction.id.alike id = false := numbered.id.not_alike whole apart
  have named : (Run.resultOf statement outcome blocked).statement.transaction.alike id = false := by
    show statement.transaction.alike id = false
    rw [numbered.transaction_eq own, different]
  unfold account
  rw [view_noteEnd_other different]
  split
  · have others : ∀ entry ∈ (progress.withResult
        (Run.resultOf statement outcome blocked)).trace.abortedAt, entry.1.IsWhole := keys
    rw [view_aborted_other numbered whole apart others, view_withResult_other named]
  · exact view_withResult_other named

/-- A sent statement changes the view of its transaction. -/
theorem view_noteSent :
    (progress.noteSent transaction statement).view transaction.id =
      (progress.view transaction.id).noteSent transaction statement := by
  unfold noteSent Run.noteSnapshot
  by_cases takes : statement.takesSnapshot = true <;>
    simp [view, View.noteSent, setSent, Trace.snapshotBy, takes, List.filter_append,
      Value.alike_refl, Trace.abortOf?]

/-- A sent statement changes no view of another transaction. -/
theorem view_noteSent_other (whole : id.IsWhole) (named : transaction.id.IsWhole)
    (apart : transaction.id ≠ id) :
    (progress.noteSent transaction statement).view id = progress.view id := by
  unfold noteSent Run.noteSnapshot
  by_cases takes : statement.takesSnapshot = true <;>
    simp [view, setSent, Trace.snapshotBy, takes, List.filter_append, named.not_alike whole apart,
      whole.not_alike named apart.symm, Trace.abortOf?]

/-- A parked statement is in the view of its transaction. -/
theorem view_park {parked : Parked} (own : parked.id = id) :
    (progress.park parked).view id =
      { progress.view id with parked := (progress.view id).parked ++ [parked] } := by
  simp [view, park, List.filter_append, own, Value.alike_refl]

/-- A parked statement changes no view of another transaction. -/
theorem view_park_other {parked : Parked} (apart : parked.id.alike id = false) :
    (progress.park parked).view id = progress.view id := by
  simp [view, park, List.filter_append, apart]

/-- What is settled leaves the view of its transaction. -/
theorem view_unpark : (progress.unpark id).view id = { progress.view id with parked := [] } := by
  simp [view, unpark, List.filter_filter]

/-- What is settled changes no view of another transaction. -/
theorem view_unpark_other {other : Value} (whole : id.IsWhole) (another : other.IsWhole)
    (apart : id ≠ other) (ids : ∀ parked ∈ progress.parked, parked.id.IsWhole) :
    (progress.unpark id).view other = progress.view other := by
  have kept : (progress.parked.filter fun parked => !parked.id.alike id).filter
      (·.id.alike other) = progress.parked.filter (·.id.alike other) := by
    rw [List.filter_filter]
    refine List.filter_congr fun parked member => ?_
    by_cases same : parked.id.alike other = true
    · have different : parked.id.alike id = false := by
        rw [((ids parked member).alike_iff another).1 same]
        exact another.not_alike whole apart.symm
      simp [same, different]
    · simp [same]
  simp [view, unpark, kept]

end Progress

end SerialCheck

import SerialCheck.Check
import SerialCheck.Proofs.Interleaved.Invariant

/-!
# The course of an interleaved run

An interleaved run that returns a trace has passed through moments up to one at which no
transaction has anything left, and the trace is what that moment holds (`steps_returns`).
-/
namespace SerialCheck

/-- A moment at which nothing is left: no transaction can continue and none waits. -/
structure Moment.Final (batch : Batch) (moment : Moment) : Prop where
  /-- No transaction can continue. -/
  still : moment.progress.runnable batch = []
  /-- Nothing is parked. -/
  clear : moment.progress.parked = []

/-- The outcome of a statement leaves what is parked. -/
@[simp] theorem Progress.account_parked (progress : Progress) (transaction : OpenTransaction)
    (statement : Statement) (outcome : Outcome) (blocked : Bool) :
    (progress.account transaction statement outcome blocked).parked = progress.parked := by
  have ended : ∀ noted : Progress,
      (Run.noteEnd transaction statement noted).parked = noted.parked := by
    intro noted
    unfold Run.noteEnd
    split <;> rfl
  unfold account
  rw [ended]
  split <;> rfl

namespace Run

variable {batch : Batch} {start : Bench} {moment : Moment}

/-- A transaction has at most one statement parked. -/
theorem others_apart (sound : Sound batch moment) {parked : Parked}
    {rest : List Parked} (waiting : (parked :: rest).Sublist moment.progress.parked) :
    ∀ other ∈ rest, other.id.alike parked.id = false := by
  obtain ⟨owner, member, named, _⟩ :=
    sound.known.parked parked (waiting.subset List.mem_cons_self)
  have inView : parked ∈ (moment.progress.view owner.id).parked :=
    List.mem_filter.2
      ⟨waiting.subset List.mem_cons_self, by rw [named]; exact Value.alike_refl _⟩
  obtain ⟨_, last, _, stands, _⟩ := (sound.standing owner member).waiting_of_parked inView
  have single : ((parked :: rest).filter (·.id.alike parked.id)).length ≤ 1 := by
    have fewer := (waiting.filter (·.id.alike parked.id)).length_le
    have all : moment.progress.parked.filter (·.id.alike parked.id) = [last.parked] := by
      rw [named]
      exact stands.parked
    rw [all] at fewer
    exact fewer
  rw [List.filter_cons_of_pos (by exact Value.alike_refl _), List.length_cons] at single
  have empty : rest.filter (·.id.alike parked.id) = [] :=
    List.eq_nil_of_length_eq_zero (by omega)
  intro other inside
  exact Bool.eq_false_iff.2 (List.filter_eq_nil_iff.1 empty other inside)

/-- What is parked besides the statement that is settled stays parked. -/
theorem unseen_account (sound : Sound batch moment) {parked : Parked}
    {rest : List Parked} (waiting : (parked :: rest).Sublist moment.progress.parked)
    (transaction : OpenTransaction) (outcome : Outcome) :
    rest.Sublist ((moment.progress.unpark parked.id).account transaction parked.statement outcome
      true).parked := by
  have apart := others_apart sound waiting
  have unchanged : (parked :: rest).filter (!·.id.alike parked.id) = rest := by
    rw [List.filter_cons_of_neg (by simp [Value.alike_refl])]
    exact List.filter_eq_self.2 fun other inside => by simp [apart other inside]
  rw [Progress.account_parked, ← unchanged]
  exact waiting.filter _

/-- Settling passes through moments. -/
theorem settle_reached (numbered : batch.Numbered) {rest : List Parked}
    (reached : Reached batch start moment) (waiting : rest.Sublist moment.progress.parked)
    {progress : Progress} {after : Bench}
    (returned : (settle batch rest moment.progress).Returns moment.bench progress after) :
    Reached batch start ⟨progress, after, moment.sendings⟩ := by
  induction rest generalizing moment with
  | nil =>
    obtain ⟨rfl, rfl⟩ := Task.returns_pure.1 returned
    exact reached
  | cons parked rest hypothesis =>
    have sound := Sound.of_reached numbered reached
    rw [settle, Task.returns_get_bind] at returned
    by_cases finished : parked.finish.le moment.bench.now = true
    · rw [if_pos finished] at returned
      obtain ⟨owner, member, named, _⟩ :=
        sound.known.parked parked (waiting.subset List.mem_cons_self)
      have found : batch.find? parked.id = some owner := named ▸ numbered.find?_eq member
      simp only [named, Task.returns_bind, numbered.member_returns member,
        Task.returns_release] at returned
      obtain ⟨_, _, ⟨rfl, rfl⟩, outcome, _, ⟨answered, rfl⟩, later, between, recorded, settled⟩ :=
        returned
      rw [← named] at recorded
      have step : Next batch moment ⟨later, between, moment.sendings⟩ :=
        .settle parked _ outcome later between (waiting.subset List.mem_cons_self) finished found
          answered recorded
      have come : Reached batch start ⟨later, between, moment.sendings⟩ := .next reached step
      have further := hypothesis come
      refine further ?_ settled
      show rest.Sublist later.parked
      rw [(record_returns recorded).1]
      exact unseen_account sound waiting _ outcome
    · rw [if_neg finished] at returned
      exact hypothesis reached ((List.sublist_cons_self _ _).trans waiting) returned

/-- A transaction that can be chosen has a next statement. -/
theorem exists_next {progress : Progress} {first transaction : OpenTransaction} {others : Batch}
    (runnable : progress.runnable batch = first :: others)
    (listed : transaction ∈ first :: others) :
    ∃ statement, transaction.statements[progress.sent transaction.id]? = some statement := by
  have inside : transaction ∈ progress.runnable batch := runnable ▸ listed
  have left := (Progress.canContinue_iff.1 (Progress.mem_runnable.1 inside).2).2
  exact ⟨_, List.getElem?_eq_getElem left⟩

/-- The next statement of the chosen transaction is sent. -/
theorem sendNext_reached (reached : Reached batch start moment) {first transaction : OpenTransaction}
    {others : Batch} {chosen after : Bench} {progress : Progress}
    (runnable : moment.progress.runnable batch = first :: others)
    (picked : (pick first others).Returns moment.bench transaction chosen)
    (returned : (sendNext transaction moment.progress).Returns chosen progress after) :
    ∃ statement, Reached batch start
      ⟨progress, after, moment.sendings ++ [⟨transaction, statement, chosen⟩]⟩ := by
  obtain ⟨statement, next⟩ := exists_next runnable (pick_returns picked).1
  unfold sendNext at returned
  rw [next] at returned
  exact ⟨_, .next reached
    (.send first others transaction _ chosen progress after runnable picked next returned)⟩

/-- Steps that return a trace pass through moments up to a final one, which holds the trace. -/
theorem steps_returns (numbered : batch.Numbered) {count : Nat}
    (reached : Reached batch start moment) {trace : Trace} {after : Bench}
    (returned : (steps batch count moment.progress).Returns moment.bench trace after) :
    ∃ last : Moment, Reached batch start last ∧ last.Final batch ∧ last.progress.trace = trace ∧
      last.bench = after := by
  induction count generalizing moment with
  | zero => exact (Task.returns_throw.1 returned).elim
  | succ count hypothesis =>
    rw [steps, Task.returns_bind] at returned
    obtain ⟨progress, between, settled, rest⟩ := returned
    have come := settle_reached numbered reached (List.Sublist.refl _) settled
    cases runnable : progress.runnable batch with
    | cons first others =>
      simp only [runnable, Task.returns_bind] at rest
      obtain ⟨transaction, chosen, picked, later, bench, sent, rest⟩ := rest
      obtain ⟨statement, further⟩ := sendNext_reached come runnable picked sent
      exact hypothesis further rest
    | nil =>
      cases parked : progress.parked with
      | cons first others =>
        simp only [runnable, parked, Task.returns_bind] at rest
        obtain ⟨⟨⟩, bench, waited, rest⟩ := rest
        exact hypothesis (.next come (.wait first others bench parked runnable waited)) rest
      | nil =>
        simp only [runnable, parked, Task.returns_pure] at rest
        obtain ⟨rfl, rfl⟩ := rest
        exact ⟨_, come, ⟨runnable, parked⟩, rfl, rfl⟩

/-- An interleaved run that returns a trace has come to a final moment that holds it. -/
theorem interleaved_returns (numbered : batch.Numbered) {trace : Trace} {after : Bench}
    (returned : (interleaved batch).Returns start trace after) :
    ∃ last : Moment, Reached batch start last ∧ last.Final batch ∧ last.progress.trace = trace ∧
      last.bench = after := by
  rw [interleaved, Task.returns_get_bind] at returned
  exact steps_returns numbered .first returned

/-- The database is restored and the beginning of a run recorded. -/
def prepare (batch : Batch) (strategy : Strategy) : Task Unit := do
  Bench.reproduce
  Task.log .debug s!"Running {batch.length} transactions ({strategy.word})"

/-- A run prepares, runs the batch by its strategy and reads the contents of the tables. -/
theorem run_returns {strategy : Strategy} {reference : Option Trace} {order : Value}
    {bench after : Bench} {trace : Trace} :
    (run batch strategy reference order).Returns bench trace after ↔
      ∃ start ran between contents, (prepare batch strategy).Returns bench () start ∧
        batch.unfit? = none ∧ (byStrategy batch reference order strategy).Returns start ran between ∧
        Bench.snapshot.Returns between contents after ∧
        trace = { ran with finalState := contents } := by
  simp only [run, prepare, Task.returns_bind, Task.returns_log]
  cases batch.unfit? with
  | none =>
    simp only [Task.returns_bind, Task.returns_pure, true_and]
    constructor
    · rintro ⟨_, restored, restoring, _, start, rfl, ran, between, running, contents,
        _, reading, rfl, rfl⟩
      exact ⟨_, ran, between, contents, ⟨(), restored, restoring, rfl⟩, running, reading, rfl⟩
    · rintro ⟨start, ran, between, contents, ⟨_, restored, restoring, rfl⟩, running, reading, rfl⟩
      exact ⟨(), restored, restoring, (), _, rfl, ran, between, running, contents,
        after, reading, rfl, rfl⟩
  | some cause => simp [Task.returns_throw]

/-- The interleaved run of a batch, begun on a bench, passes through the moment. -/
def Passes (batch : Batch) (bench : Bench) (moment : Moment) : Prop :=
  ∃ start, (prepare batch .interleaved).Returns bench () start ∧ Reached batch start moment

/-- The moment is one at which the interleaved run of a batch, begun on a bench, ends with a trace and
leaves the other bench. -/
structure EndsAt (batch : Batch) (bench : Bench) (trace : Trace) (after : Bench)
    (moment : Moment) : Prop where
  /-- The run passes through it. -/
  passes : Passes batch bench moment
  /-- Nothing is left. -/
  final : moment.Final batch
  /-- The trace holds what is recorded by then, and the contents of the tables, which are read last. -/
  recorded : ∃ contents, Bench.snapshot.Returns moment.bench contents after ∧
    trace = { moment.progress.trace with finalState := contents }

/-- A run that returns a trace passes through a final moment, whose trace it is but for the
contents of the tables. -/
theorem run_interleaved_returns (numbered : batch.Numbered) {reference : Option Trace}
    {order : Value} {bench after : Bench} {trace : Trace}
    (returned : (run batch .interleaved reference order).Returns bench trace after) :
    ∃ last : Moment, Passes batch bench last ∧ last.Final batch ∧
      ∃ contents, Bench.snapshot.Returns last.bench contents after ∧
        trace = { last.progress.trace with finalState := contents } := by
  obtain ⟨start, ran, between, contents, prepared, _, running, reading, same⟩ :=
    run_returns.1 returned
  obtain ⟨last, reached, final, rfl, rfl⟩ := interleaved_returns numbered running
  exact ⟨last, ⟨start, prepared, reached⟩, final, contents, reading, same⟩

/-- So it ends at that moment. -/
theorem exists_endsAt (numbered : batch.Numbered) {reference : Option Trace} {order : Value}
    {bench after : Bench} {trace : Trace}
    (returned : (run batch .interleaved reference order).Returns bench trace after) :
    ∃ moment, EndsAt batch bench trace after moment := by
  obtain ⟨last, passes, final, contents, recorded⟩ := run_interleaved_returns numbered returned
  exact ⟨last, passes, final, contents, recorded⟩

end Run

end SerialCheck

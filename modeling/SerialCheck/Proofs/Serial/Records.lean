import SerialCheck.Proofs.Candidates
import SerialCheck.Proofs.Interleaved.Bookkeeping
import SerialCheck.Proofs.Serial.Replay

/-!
# A serial run follows its order and the aborts of the reference

When a serial run returns, its trace is that of the listed transactions, one after the other, each cut at
the place at which the reference saw it aborted (`Trace.IsSerialRecord`). One transaction adds its results,
its end and, if it is cut, its abort (`Run.replay_returns`); the rest is an induction on the order
(`Run.replayAll_records`).
-/
namespace SerialCheck

/-- The statement stands ahead of the place of an abort, if there is an abort. -/
def Statement.IsAheadOf (statement : Statement) (entry : Option Value) : Prop :=
  ∀ place ∈ entry, ∃ here limit : Int,
    statement.index = .integer here ∧ place = .integer limit ∧ here < limit

instance (result : StatementResult) : Decidable result.IsFirstData :=
  decidable_of_iff (result.statement.index = .integer 1 ∧
      result.statement.kind.isControl = false ∧ result.executed = .boolean true)
    ⟨fun ⟨index, data, executed⟩ => ⟨index, data, executed⟩,
      fun first => ⟨first.index, first.data, first.executed⟩⟩

/-- The transactions whose first data statement is among the results and was sent, in the order of these
results. -/
def firstSenders (results : List StatementResult) : List Value :=
  (results.filter fun result => result.IsFirstData).map fun result => result.statement.transaction

/-- The listed transactions that have an entry, each with that. -/
def abortsAmong (entryOf : Value → Option Value) (order : List Value) : List (Value × Value) :=
  order.filterMap fun id => (entryOf id).map fun place => (id, place)

/-- The first senders of appended results are those of the one part and then those of the other one. -/
theorem firstSenders_append (results others : List StatementResult) :
    firstSenders (results ++ others) = firstSenders results ++ firstSenders others := by
  simp [firstSenders]

theorem abortsAmong_cons (entryOf : Value → Option Value) (id : Value) (order : List Value) :
    abortsAmong entryOf (id :: order) =
      ((entryOf id).map fun place => (id, place)).toList ++ abortsAmong entryOf order := by
  rw [abortsAmong, List.filterMap_cons]
  cases entryOf id <;> rfl

/-- A value that has members is not empty. -/
theorem Value.isFilled_of_each {value : Value} {members : List Value}
    (given : value.each = .ok members) (some : members ≠ []) : value.isFilled = true := by
  cases value <;> simp [each, Value.members, Except.mapError] at given <;> subst given <;>
    simpa [isFilled] using some

/-- The trace refers to transactions and to places by whole numbers. -/
structure Trace.Refers (trace : Trace) : Prop where
  /-- It lists whole numbers as those of transactions. -/
  orders : ∀ id ∈ trace.snapshotOrder ++ trace.completionOrder, id.IsWhole
  /-- It has whole numbers as the places of aborts. -/
  places : ∀ entry ∈ trace.abortedAt, entry.2.IsWhole

namespace Run

/-- Transactions are replayed one after the other from one scene to another, each over its own session.
Those that have an entry are replayed up to it and rolled back then. -/
inductive ReplaysAll (entryOf : Value → Option Value) :
    Scene → List OpenTransaction → List StatementResult → Scene → Prop where
  /-- There are none left. -/
  | done (scene : Scene) : ReplaysAll entryOf scene [] [] scene
  /-- The first one has no entry. -/
  | whole {scene between last : Scene} {transaction : OpenTransaction} {rest : List OpenTransaction}
      {results others : List StatementResult} (entry : entryOf transaction.id = none)
      (replays : Replays transaction.session (·.IsAheadOf none) scene transaction.statements results
        between)
      (further : ReplaysAll entryOf between rest others last) :
      ReplaysAll entryOf scene (transaction :: rest) (results ++ others) last
  /-- The first one has an entry. -/
  | cut {scene between last : Scene} {transaction : OpenTransaction} {rest : List OpenTransaction}
      {results others : List StatementResult} {place : Value}
      (entry : entryOf transaction.id = some place)
      (replays : Replays transaction.session (·.IsAheadOf (some place)) scene transaction.statements
        results between)
      (further : ReplaysAll entryOf (between.send transaction.session (.text Bench.rollbackText)) rest
        others last) :
      ReplaysAll entryOf scene (transaction :: rest) (results ++ others) last

/-- The results are those of the statements of the transactions, in order. -/
theorem ReplaysAll.map_statement {entryOf : Value → Option Value} {scene last : Scene}
    {owners : List OpenTransaction} {results : List StatementResult}
    (replays : ReplaysAll entryOf scene owners results last) :
    results.map StatementResult.statement = owners.flatMap fun owner => owner.statements := by
  induction replays with
  | done => rfl
  | whole _ replays _ hypothesis =>
    rw [List.map_append, replays.map_statement, hypothesis, List.flatMap_cons]
  | cut _ replays _ hypothesis =>
    rw [List.map_append, replays.map_statement, hypothesis, List.flatMap_cons]

end Run

/-- The trace is what a serial run records that begins on a bench and replays the listed transactions of a
batch up to the aborts of a reference. -/
structure Trace.IsSerialRecord (trace : Trace) (batch : Batch) (reference : Option Trace)
    (order : List Value) (bench : Bench) : Prop where
  /-- The results are those of the statements of the listed transactions, in order. Each statement ahead of
  the abort of its transaction was sent and its result has the outcome, and each other one was passed
  over. -/
  results : ∃ owners start last, (∀ owner ∈ owners, owner ∈ batch) ∧
    owners.map (fun owner => owner.id) = order ∧
    (Run.prepare batch .serialized).Returns bench () start ∧
    Run.ReplaysAll (fun id => reference.bind (·.abortOf? id)) start.scene owners trace.results last ∧
    trace.results.map StatementResult.statement = owners.flatMap fun owner => owner.statements
  /-- The transactions ended in the order in which they are listed. -/
  completionOrder : trace.completionOrder = order
  /-- The aborts are those of the reference among the listed transactions. -/
  abortedAt : trace.abortedAt = abortsAmong (fun id => reference.bind (·.abortOf? id)) order
  /-- Those took their snapshots whose first data statement was sent, in order. -/
  snapshotOrder : trace.snapshotOrder = firstSenders trace.results

namespace Run

variable {batch : Batch} {transaction : OpenTransaction} {cut : Value}

/-- A statement at a place is not cut exactly if it stands ahead of the abort. -/
theorem isCut_iff_isAheadOf {statement : Statement} {entry : Option Value}
    (index : statement.index.IsWhole) (places : ∀ place ∈ entry, place.IsWhole) :
    isCut (entry.getD .null) statement = .ok false ↔ statement.IsAheadOf entry := by
  cases entry with
  | none => simp [isCut, Statement.IsAheadOf]
  | some place =>
    obtain ⟨limit, rfl⟩ := places place rfl
    obtain ⟨here, index⟩ := index
    simp [isCut, Statement.IsAheadOf, index, Value.isAtLeast_integer]

/-- The snapshots of a transaction are taken by its first data statement. -/
theorem snapshotsIn_eq_firstSenders (numbered : transaction.toTransaction.Numbered)
    {results : List StatementResult}
    (replayed : List.Forall₂ (Replayed transaction cut) transaction.statements results) :
    snapshotsIn transaction.id results = firstSenders results := by
  have own : ∀ result ∈ results, result.statement ∈ transaction.statements := by
    intro result inside
    obtain ⟨statement, member, replayed⟩ := exists_related_of_mem_right replayed inside
    rw [replayed.statement_eq]
    exact member
  have taken : (results.filter fun result =>
      decide (result.executed = .boolean true) && result.statement.takesSnapshot) =
        results.filter fun result => result.IsFirstData := by
    refine List.filter_congr fun result inside => ?_
    rw [Bool.eq_iff_iff]
    simp only [Bool.and_eq_true, decide_eq_true_eq, numbered.takesSnapshot_iff (own result inside)]
    exact ⟨fun ⟨executed, index, data⟩ => ⟨index, data, executed⟩,
      fun first => ⟨first.executed, first.index, first.data⟩⟩
  rw [snapshotsIn, firstSenders, taken]
  refine List.map_congr_left fun result inside => ?_
  exact (numbered.transaction_eq (own result (List.mem_filter.1 inside).1)).symm

/-- The aborts after a transaction are the ones before it and its own. -/
theorem abortedAt_afterReplay {trace : Trace} {entry : Option Value} {id : Value}
    (places : ∀ place ∈ entry, place.IsWhole) (new : Value.lookup id trace.abortedAt = none)
    (results : List StatementResult) :
    (afterReplay trace id (entry.getD .null) results).abortedAt =
      trace.abortedAt ++ (entry.map fun place => (id, place)).toList := by
  cases entry with
  | none => simp [afterReplay]
  | some place =>
    obtain ⟨limit, rfl⟩ := places place rfl
    simp [afterReplay, Value.put, new]

/-- A transaction is replayed in front of others. -/
theorem ReplaysAll.cons {entryOf : Value → Option Value} {scene between last : Scene}
    {rest : List OpenTransaction} {results others : List StatementResult}
    (numbered : transaction.toTransaction.Numbered)
    (places : ∀ place ∈ entryOf transaction.id, place.IsWhole)
    (replays : Replays transaction.session
      (isCut ((entryOf transaction.id).getD .null) · = .ok false) scene transaction.statements results
        between)
    (further : ReplaysAll entryOf
      (sceneAfter between transaction.session ((entryOf transaction.id).getD .null)) rest others last) :
    ReplaysAll entryOf scene (transaction :: rest) (results ++ others) last := by
  have ahead := replays.congr fun statement own =>
    isCut_iff_isAheadOf (numbered.index_isWhole own) places
  cases entry : entryOf transaction.id with
  | none =>
    rw [entry] at ahead further
    exact .whole entry ahead further
  | some place =>
    obtain ⟨limit, rfl⟩ := places place entry
    rw [entry] at ahead further
    exact .cut entry ahead further

/-- The replay of transactions adds their results, ends, aborts and snapshots in the given order. -/
theorem replayAll_records (numbered : batch.Numbered) {aborts : List (Value × Value)}
    (places : ∀ entry ∈ aborts, entry.2.IsWhole) {order : List Value} (once : order.Nodup)
    (known : ∀ id ∈ order, id ∈ batch.ids) {trace result : Trace}
    (new : ∀ id ∈ order, Value.lookup id trace.abortedAt = none) {bench after : Bench}
    (returned : (replayAll batch aborts order trace).Returns bench result after) :
    ∃ owners results, (∀ owner ∈ owners, owner ∈ batch) ∧
      owners.map (fun owner => owner.id) = order ∧
      ReplaysAll (Value.lookup · aborts) bench.scene owners results after.scene ∧
      result =
        { trace with
          results := trace.results ++ results
          completionOrder := trace.completionOrder ++ order
          snapshotOrder := trace.snapshotOrder ++ firstSenders results
          abortedAt := trace.abortedAt ++ abortsAmong (Value.lookup · aborts) order } := by
  induction order generalizing trace bench with
  | nil =>
    obtain ⟨rfl, rfl⟩ := Task.returns_pure.1 returned
    exact ⟨[], [], by simp, rfl, .done _, by simp [firstSenders, abortsAmong]⟩
  | cons id rest hypothesis =>
    obtain ⟨transaction, member, rfl⟩ := List.mem_map.1 (known id List.mem_cons_self)
    obtain ⟨unlisted, others⟩ := List.nodup_cons.1 once
    have single := numbered.each transaction member
    have entry : ∀ place ∈ Value.lookup transaction.id aborts, place.IsWhole := by
      intro place found
      obtain ⟨held, inside, rfl⟩ := Value.exists_mem_of_lookup found
      exact places held inside
    simp only [replayAll, Task.returns_bind, numbered.member_returns member] at returned
    obtain ⟨transaction, _, ⟨rfl, rfl⟩, later, between, replaying, returned⟩ := returned
    obtain ⟨results, replayed, ⟨last, replays, scene⟩, rfl⟩ := replay_returns replaying
    have aborted := abortedAt_afterReplay entry (new _ List.mem_cons_self) results
    have further : ∀ id ∈ rest, id ∈ batch.ids := fun id inside =>
      known id (List.mem_cons_of_mem _ inside)
    have still : ∀ id ∈ rest, Value.lookup id (afterReplay trace transaction.id
        ((Value.lookup transaction.id aborts).getD .null) results).abortedAt = none := by
      intro id inside
      have apart : transaction.id.alike id = false :=
        single.id.not_alike (numbered.isWhole_of_mem_ids (further id inside)) fun same =>
          unlisted (same ▸ inside)
      rw [aborted, Value.lookup_append, new id (List.mem_cons_of_mem _ inside)]
      cases Value.lookup transaction.id aborts <;> simp [Value.lookup, apart]
    obtain ⟨owners, more, owned, listed, replaysRest, rfl⟩ := hypothesis others further still returned
    rw [scene] at replaysRest
    refine ⟨transaction :: owners, results ++ more, ?_, ?_,
      .cons single entry replays replaysRest, ?_⟩
    · exact List.forall_mem_cons.2 ⟨member, owned⟩
    · rw [List.map_cons, listed]
    · rw [aborted, abortsAmong_cons, firstSenders_append]
      simp [afterReplay, snapshotsIn_eq_firstSenders single replayed]

/-- A serial run that replays an order of transactions of a batch leaves its record. -/
theorem isSerialRecord_of_chosen (numbered : batch.Numbered) {reference : Option Trace}
    (places : ∀ trace ∈ reference, ∀ entry ∈ trace.abortedAt, entry.2.IsWhole) {order : Value}
    {listed : List Value} (chosen : chosenOrder batch reference order = .ok listed)
    (once : listed.Nodup) (known : ∀ id ∈ listed, id ∈ batch.ids) {bench after : Bench} {trace : Trace}
    (returned : (run batch .serialized reference order).Returns bench trace after) :
    trace.IsSerialRecord batch reference listed bench := by
  obtain ⟨start, ran, between, contents, prepared, _, running, _, rfl⟩ := run_returns.1 returned
  simp only [byStrategy, serial, Task.returns_bind, Task.returns_use, chosen] at running
  obtain ⟨_, _, ⟨⟨⟩, rfl⟩, replaying⟩ := running
  have whole : ∀ entry ∈ reference.elim [] Trace.abortedAt, entry.2.IsWhole := by
    cases reference with
    | none => simp
    | some trace => exact places trace rfl
  have entries : (Value.lookup · (reference.elim [] Trace.abortedAt)) =
      fun id => reference.bind (·.abortOf? id) := by
    cases reference <;> rfl
  obtain ⟨owners, results, owned, ids, replays, rfl⟩ :=
    replayAll_records numbered whole once known (fun _ _ => rfl) replaying
  rw [entries] at replays
  exact {
    results := ⟨owners, _, _, owned, ids, prepared, replays, replays.map_statement⟩
    completionOrder := List.nil_append _
    abortedAt := by
      rw [← entries]
      exact List.nil_append _
    snapshotOrder := List.nil_append _ }

/-- When a serial run of a numbered batch returns, it has followed the given order of transactions, which
lists none twice, and every abort of the reference. Without an order it has followed the preferred one. -/
theorem serial_records (numbered : batch.Numbered) {reference : Option Trace}
    (refers : ∀ trace ∈ reference, trace.Refers) {order : Value} {bench after : Bench} {trace : Trace}
    (returned : (run batch .serialized reference order).Returns bench trace after) :
    (∀ listed, order.each = .ok listed → listed ≠ [] → listed.Nodup → (∀ id ∈ listed, id ∈ batch.ids) →
        trace.IsSerialRecord batch reference listed bench) ∧
      (order.isFilled = false →
        trace.IsSerialRecord batch reference (Order.preferred batch.ids reference) bench) := by
  have places : ∀ trace ∈ reference, ∀ entry ∈ trace.abortedAt, entry.2.IsWhole := fun trace given =>
    (refers trace given).places
  constructor
  · intro listed given some once known
    have chosen : chosenOrder batch reference order = .ok listed := by
      rw [chosenOrder, if_pos (Value.isFilled_of_each given some), given]
    exact isSerialRecord_of_chosen numbered places chosen once known returned
  · intro empty
    have chosen : chosenOrder batch reference order = .ok (Order.preferred batch.ids reference) := by
      rw [chosenOrder, if_neg (by simp [empty])]
    have preferred := Order.isSerialOrder_preferred (fun _ => numbered.isWhole_of_mem_ids)
      (fun trace given => (refers trace given).orders) fun _ => numbered.distinct
    exact isSerialRecord_of_chosen numbered places chosen preferred.once
      (fun id inside => (preferred.mem_iff id).1 inside) returned

end Run

namespace Sample

/-- A reference that saw the first transaction aborted at its second data statement, after the other one
had taken its snapshot. -/
def seenAborted : Trace where
  snapshotOrder := [.integer 2, .integer 1]
  completionOrder := [.integer 1, .integer 2]
  abortedAt := [(.integer 1, .integer 2)]

/-- It refers to transactions and places by whole numbers. -/
theorem seenAborted_refers : seenAborted.Refers where
  orders := by
    intro id inside
    have listed : id ∈ [Value.integer 2, .integer 1, .integer 1, .integer 2] := inside
    simp only [List.mem_cons, List.not_mem_nil, or_false] at listed
    rcases listed with rfl | rfl | rfl | rfl <;> exact ⟨_, rfl⟩
  places := by
    intro entry inside
    rw [List.mem_singleton.1 inside]
    exact ⟨2, rfl⟩

/-- The first insertion of a replay meets a deadlock, and what is behind the abort of the reference is passed
over. -/
theorem crossing_seenAborted :
    ((Run.run crossing .serialized (some seenAborted) (.array [.integer 2, .integer 1])
        (bench oneDeadlock)).1.toOption.map fun trace =>
          trace.results.map fun result => (result.executed, result.error)) =
      some [(.boolean true, .null), (.boolean true, .text "deadlock detected"), (.boolean true, .null),
        (.boolean true, .null), (.boolean true, .null), (.boolean true, .null),
        (.boolean false, .null), (.boolean false, .null)] := by
  decide +kernel

end Sample

namespace Run

/-- Two transactions are replayed in a given order, and without one in that of their snapshots, which is
the same. -/
theorem serial_records_crossing :
    ∃ trace after, (run Sample.crossing .serialized (some Sample.seenAborted)
          (.array [.integer 2, .integer 1])).Returns (Sample.bench Sample.oneDeadlock) trace after ∧
      (run Sample.crossing .serialized (some Sample.seenAborted) .null).Returns
          (Sample.bench Sample.oneDeadlock) trace after ∧
      trace.IsSerialRecord Sample.crossing (some Sample.seenAborted) [.integer 2, .integer 1]
          (Sample.bench Sample.oneDeadlock) ∧
      trace.IsSerialRecord Sample.crossing (some Sample.seenAborted)
          (Order.preferred Sample.crossing.ids (some Sample.seenAborted))
          (Sample.bench Sample.oneDeadlock) := by
  have refers : ∀ trace ∈ some Sample.seenAborted, trace.Refers := by
    rintro _ ⟨⟩
    exact Sample.seenAborted_refers
  have same : run Sample.crossing .serialized (some Sample.seenAborted) .null =
      run Sample.crossing .serialized (some Sample.seenAborted) (.array [.integer 2, .integer 1]) := by
    have chosen : chosenOrder Sample.crossing (some Sample.seenAborted) .null =
        chosenOrder Sample.crossing (some Sample.seenAborted) (.array [.integer 2, .integer 1]) := rfl
    simp only [run, byStrategy, serial, chosen]
  obtain ⟨trace, after, given, _⟩ := Task.returns_of_map Sample.crossing_seenAborted
  have left : (run Sample.crossing .serialized (some Sample.seenAborted) .null).Returns
      (Sample.bench Sample.oneDeadlock) trace after := by
    rw [same]
    exact given
  refine ⟨trace, after, given, left, ?_, ?_⟩
  · exact (serial_records Sample.crossing_numbered refers given).1 _ rfl (by decide) (by decide)
      (by decide)
  · exact (serial_records Sample.crossing_numbered refers left).2 rfl

end Run

end SerialCheck

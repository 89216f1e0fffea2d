import SerialCheck.Proofs.Interleaved.Course

/-!
# What the replay of transactions adds to a trace

A serial run that returns has replayed the listed transactions in order. Each statement ahead of
the point at which the reference run aborted its transaction has the result of an outcome, and each
one from that point on is skipped (`replayAll_returns`). The replay of statements is taken apart by
`replayStatements_cons` and that of a transaction by `replay_cases`; `Replays` says from which scene
each of the statements was answered.
-/
namespace SerialCheck

section

variable {α β : Type} {related : α → β → Prop} {lefts : List α} {rights : List β}

/-- Every member of the first of two related lists has a related one in the second. -/
theorem exists_related_of_mem_left (all : List.Forall₂ related lefts rights) {left : α}
    (member : left ∈ lefts) : ∃ right ∈ rights, related left right := by
  induction all with
  | nil => cases member
  | cons first _ hypothesis =>
    rcases List.mem_cons.1 member with rfl | inside
    · exact ⟨_, List.mem_cons_self, first⟩
    · obtain ⟨right, known, related⟩ := hypothesis inside
      exact ⟨right, List.mem_cons_of_mem _ known, related⟩

/-- Every member of the second of two related lists has a related one in the first. -/
theorem exists_related_of_mem_right (all : List.Forall₂ related lefts rights) {right : β}
    (member : right ∈ rights) : ∃ left ∈ lefts, related left right := by
  induction all with
  | nil => cases member
  | cons first _ hypothesis =>
    rcases List.mem_cons.1 member with rfl | inside
    · exact ⟨_, List.mem_cons_self, first⟩
    · obtain ⟨left, known, related⟩ := hypothesis inside
      exact ⟨left, List.mem_cons_of_mem _ known, related⟩

end

/-- How the replay of a statement can be recorded, given the place at which its transaction is
cut. -/
inductive Replayed (transaction : OpenTransaction) (cut : Value) :
    Statement → StatementResult → Prop where
  /-- A statement at the cut or behind it is skipped. -/
  | skipped (statement : Statement) (behind : Run.isCut cut statement = .ok true) :
      Replayed transaction cut statement (Run.skipped statement false)
  /-- Any other one is sent, and its outcome is recorded. -/
  | executed (sending : Sending) (owner : sending.transaction = transaction)
      (ahead : Run.isCut cut sending.statement = .ok false)
      (answered : sending.reply.result = .ok sending.outcome) :
      Replayed transaction cut sending.statement
        (Run.resultOf sending.statement sending.outcome false)

namespace Replayed

variable {transaction : OpenTransaction} {cut : Value} {statement : Statement}
  {result : StatementResult}

/-- The result is of the statement. -/
theorem statement_eq (replayed : Replayed transaction cut statement result) :
    result.statement = statement := by
  cases replayed <;> rfl

/-- A result of a statement ahead of the cut is executed. -/
theorem executed_of_ahead (replayed : Replayed transaction cut statement result)
    (ahead : Run.isCut cut statement = .ok false) : result.executed = .boolean true := by
  cases replayed with
  | skipped _ behind =>
    rw [ahead] at behind
    cases behind
  | executed sending owner uncut answered => rfl

end Replayed

namespace StatementResult

/-- The statement was sent and came to the outcome without waiting. -/
structure IsOutcomeOf (result : StatementResult) (sent : Statement) (outcome : Outcome) : Prop where
  /-- It is the result of that statement. -/
  statement : result.statement = sent
  /-- It was sent. -/
  executed : result.executed = .boolean true
  /-- It does not count as blocked. -/
  blocked : result.blocked = .boolean false
  /-- The error is that of the outcome. -/
  error : result.error = .ofText? outcome.error
  /-- So is the warning. -/
  warning : result.warning = .ofText? outcome.warning
  /-- A reading statement without an error has rows, and no other one has. -/
  rows : result.rows =
    if sent.kind.returnsRows = true ∧ outcome.error = none then some (outcome.rows.getD []) else none

/-- The statement was passed over: it was not sent, it does not count as blocked, and nothing came
back. -/
structure IsPassedOver (result : StatementResult) (unsent : Statement) : Prop where
  /-- It is the result of that statement. -/
  statement : result.statement = unsent
  /-- It was not sent. -/
  executed : result.executed = .boolean false
  /-- It does not count as blocked. -/
  blocked : result.blocked = .boolean false
  /-- There is no error. -/
  error : result.error = .null
  /-- There is no warning. -/
  warning : result.warning = .null
  /-- There are no rows. -/
  rows : result.rows = none

end StatementResult

namespace Run

/-- The result of a statement with an outcome is one. -/
theorem resultOf_isOutcomeOf (statement : Statement) (outcome : Outcome) :
    (resultOf statement outcome false).IsOutcomeOf statement outcome where
  statement := rfl
  executed := rfl
  blocked := rfl
  error := rfl
  warning := rfl
  rows := by
    show keptRows statement outcome = _
    simp [keptRows, Outcome.succeeded]

theorem skipped_isPassedOver (statement : Statement) :
    (skipped statement false).IsPassedOver statement := ⟨rfl, rfl, rfl, rfl, rfl, rfl⟩

/-- Statements are replayed over a session from one scene to another: those that stand ahead are sent
one after the other, each from the scene that the ones before it left, and the other ones are passed
over. -/
inductive Replays (session : Session) (ahead : Statement → Prop) :
    Scene → List Statement → List StatementResult → Scene → Prop where
  /-- There are none left. -/
  | done (scene : Scene) : Replays session ahead scene [] [] scene
  /-- The first one is sent and answered. -/
  | sent {scene last : Scene} {statement : Statement} {outcome : Outcome} {result : StatementResult}
      {rest : List Statement} {results : List StatementResult} (first : ahead statement)
      (answered : (scene.reply session statement.text).result = .ok outcome)
      (recorded : result.IsOutcomeOf statement outcome)
      (further : Replays session ahead (scene.send session statement.text) rest results last) :
      Replays session ahead scene (statement :: rest) (result :: results) last
  /-- The first one is passed over. -/
  | passed {scene last : Scene} {statement : Statement} {result : StatementResult}
      {rest : List Statement} {results : List StatementResult} (behind : ¬ ahead statement)
      (recorded : result.IsPassedOver statement)
      (further : Replays session ahead scene rest results last) :
      Replays session ahead scene (statement :: rest) (result :: results) last

namespace Replays

variable {session : Session} {ahead : Statement → Prop} {scene last : Scene}
  {statements : List Statement} {results : List StatementResult}

/-- There is one result for each statement. -/
theorem map_statement (replays : Replays session ahead scene statements results last) :
    results.map StatementResult.statement = statements := by
  induction replays with
  | done => rfl
  | sent _ _ recorded _ hypothesis => rw [List.map_cons, recorded.statement, hypothesis]
  | passed _ recorded _ hypothesis => rw [List.map_cons, recorded.statement, hypothesis]

/-- Which statements stand ahead matters for those that are replayed only. -/
theorem congr {other : Statement → Prop} (replays : Replays session ahead scene statements results last)
    (same : ∀ statement ∈ statements, ahead statement ↔ other statement) :
    Replays session other scene statements results last := by
  induction replays with
  | done => exact .done _
  | sent first answered recorded _ hypothesis =>
    obtain ⟨here, others⟩ := List.forall_mem_cons.1 same
    exact .sent (here.1 first) answered recorded (hypothesis others)
  | passed behind recorded _ hypothesis =>
    obtain ⟨here, others⟩ := List.forall_mem_cons.1 same
    exact .passed (mt here.2 behind) recorded (hypothesis others)

/-- What sending any of the statements preserves holds of the last scene if it holds of the first
one. -/
theorem preserves {good : Scene → Prop} (replays : Replays session ahead scene statements results last)
    (kept : ∀ scene, good scene → ∀ statement ∈ statements, good (scene.send session statement.text))
    (holds : good scene) : good last := by
  induction replays with
  | done => exact holds
  | sent _ _ _ _ hypothesis =>
    exact hypothesis
      (fun scene holds statement inside => kept scene holds statement (List.mem_cons_of_mem _ inside))
      (kept _ holds _ List.mem_cons_self)
  | passed _ _ _ hypothesis =>
    exact hypothesis
      (fun scene holds statement inside => kept scene holds statement (List.mem_cons_of_mem _ inside))
      holds

end Replays

/-- The first of several statements is passed over if it stands at the cut or behind it. Else it is sent,
and its outcome is recorded. -/
theorem replayStatements_cons {id cut : Value} {session : Session} {statement : Statement}
    {rest : List Statement} {trace result : Trace} {bench after : Bench}
    (returned : (replayStatements id session cut (statement :: rest) trace).Returns bench result
      after) :
    (isCut cut statement = .ok true ∧
      (replayStatements id session cut rest (trace.record (skipped statement false))).Returns bench
        result after) ∨
    (isCut cut statement = .ok false ∧ ∃ outcome between,
      (bench.scene.reply session statement.text).result = .ok outcome ∧
      (bench.afterSending session statement.text).Agrees between ∧
      (replayStatements id session cut rest
        ((noteSnapshot trace id statement).record (resultOf statement outcome false))).Returns
          between result after) := by
  simp only [replayStatements, Task.returns_bind, Task.returns_use] at returned
  obtain ⟨behind, _, ⟨judged, rfl⟩, returned⟩ := returned
  cases behind with
  | true => exact .inl ⟨judged, returned⟩
  | false =>
    simp only [Bool.false_eq_true, ↓reduceIte, Task.returns_bind, Bench.execute_returns] at returned
    obtain ⟨outcome, _, ⟨answered, rfl⟩, _, between, report, returned⟩ := returned
    exact .inr ⟨judged, outcome, between, answered, reportUnexpected_returns report, returned⟩

/-- A statement ahead of the cut that is answered is replayed in front of others. -/
theorem replayStatements_sent {id cut : Value} {session : Session} {statement : Statement}
    {rest : List Statement} {outcome : Outcome} {trace result : Trace} {bench between after : Bench}
    (ahead : isCut cut statement = .ok false)
    (answered : (bench.scene.reply session statement.text).result = .ok outcome)
    (report : (reportUnexpected statement outcome).Returns (bench.afterSending session statement.text) ()
      between)
    (returned : (replayStatements id session cut rest
      ((noteSnapshot trace id statement).record (resultOf statement outcome false))).Returns between
        result after) :
    (replayStatements id session cut (statement :: rest) trace).Returns bench result after := by
  simp only [replayStatements, Task.returns_bind, Task.returns_use]
  refine ⟨false, bench, ⟨ahead, rfl⟩, ?_⟩
  simp only [Bool.false_eq_true, ↓reduceIte, Task.returns_bind, Bench.execute_returns]
  exact ⟨outcome, _, ⟨answered, rfl⟩, (), between, report, returned⟩

/-- When the statements of a transaction are replayed, its end is noted. A transaction that is cut is
rolled back before, and its abort is noted as well. -/
theorem replay_cases {transaction : OpenTransaction} {id cut : Value} {trace result : Trace}
    {bench after : Bench}
    (returned : (replay transaction id cut trace).Returns bench result after) :
    ∃ replayed between,
      (replayStatements id transaction.session cut transaction.statements trace).Returns bench replayed
        between ∧
      (cut = .null ∧ result = replayed.complete id ∧ after = between ∨
        cut ≠ .null ∧ result = (abort replayed id cut).complete id ∧
          (Bench.rollback transaction.session).Returns between () after) := by
  obtain ⟨replayed, between, replaying, ending⟩ := Task.returns_bind.1 returned
  refine ⟨replayed, between, replaying, ?_⟩
  split at ending
  next =>
    obtain ⟨rfl, rfl⟩ := Task.returns_pure.1 ending
    exact .inl ⟨rfl, rfl, rfl⟩
  next place cuts =>
    simp only [Task.returns_bind, Task.returns_pure] at ending
    obtain ⟨_, _, rolled, rfl, rfl⟩ := ending
    exact .inr ⟨cuts, rfl, rolled⟩

/-- The snapshots that a transaction takes when statements are recorded for it. -/
def snapshotsIn (id : Value) (results : List StatementResult) : List Value :=
  (results.filter fun result =>
    decide (result.executed = .boolean true) && result.statement.takesSnapshot).map fun _ => id

/-- The replay of statements adds a result for each of them. -/
theorem replayStatements_returns {transaction : OpenTransaction} {id cut : Value}
    {statements : List Statement} {trace result : Trace} {bench after : Bench}
    (returned : (replayStatements id transaction.session cut statements trace).Returns bench result
      after) :
    ∃ results, List.Forall₂ (Replayed transaction cut) statements results ∧
      Replays transaction.session (isCut cut · = .ok false) bench.scene statements results after.scene ∧
      result =
        { trace with
          results := trace.results ++ results
          snapshotOrder := trace.snapshotOrder ++ snapshotsIn id results } := by
  induction statements generalizing trace bench with
  | nil =>
    obtain ⟨rfl, rfl⟩ := Task.returns_pure.1 returned
    exact ⟨[], .nil, .done _, by simp [snapshotsIn]⟩
  | cons statement rest hypothesis =>
    rcases replayStatements_cons returned with
      ⟨behind, returned⟩ | ⟨ahead, outcome, between, answered, agrees, returned⟩
    · obtain ⟨results, replayed, replays, rfl⟩ := hypothesis returned
      have cut : ¬ isCut cut statement = .ok false := by simp [behind]
      refine ⟨skipped statement false :: results, .cons (.skipped statement behind) replayed,
        .passed cut (skipped_isPassedOver statement) replays, ?_⟩
      simp [Trace.record, snapshotsIn, skipped]
    · obtain ⟨results, replayed, replays, rfl⟩ := hypothesis returned
      let sending : Sending := ⟨transaction, statement, bench⟩
      have held : sending.reply.result = .ok outcome := answered
      have same : sending.outcome = outcome := by simp [Sending.outcome, held, Except.toOption]
      have first : Replayed transaction cut statement (resultOf statement outcome false) := by
        rw [← same]
        exact .executed sending rfl ahead (same ▸ held)
      rw [agrees.scene, Bench.afterSending_scene] at replays
      refine ⟨resultOf statement outcome false :: results, .cons first replayed,
        .sent ahead answered (resultOf_isOutcomeOf statement outcome) replays, ?_⟩
      by_cases takes : statement.takesSnapshot = true <;>
        simp [Trace.record, noteSnapshot, Trace.snapshotBy, snapshotsIn, resultOf, takes]

/-- The trace after a transaction was replayed with the given results. -/
def afterReplay (trace : Trace) (id cut : Value) (results : List StatementResult) : Trace :=
  { trace with
    results := trace.results ++ results
    snapshotOrder := trace.snapshotOrder ++ snapshotsIn id results
    completionOrder := trace.completionOrder ++ [id]
    abortedAt := if cut = .null then trace.abortedAt else Value.put id cut trace.abortedAt }

/-- The scene after a transaction was replayed: one that is cut is rolled back. -/
def sceneAfter (scene : Scene) (session : Session) (cut : Value) : Scene :=
  if cut = .null then scene else scene.send session (.text Bench.rollbackText)

/-- The replay of a transaction adds a result for each of its statements and notes its end, and its
abort if it is cut. -/
theorem replay_returns {transaction : OpenTransaction} {id cut : Value} {trace result : Trace}
    {bench after : Bench}
    (returned : (replay transaction id cut trace).Returns bench result after) :
    ∃ results, List.Forall₂ (Replayed transaction cut) transaction.statements results ∧
      (∃ last, Replays transaction.session (isCut cut · = .ok false) bench.scene transaction.statements
          results last ∧ after.scene = sceneAfter last transaction.session cut) ∧
      result = afterReplay trace id cut results := by
  obtain ⟨replayed, between, replaying, ending⟩ := replay_cases returned
  obtain ⟨results, all, replays, rfl⟩ := replayStatements_returns replaying
  refine ⟨results, all, ⟨between.scene, replays, ?_⟩, ?_⟩
  · rcases ending with ⟨whole, _, rfl⟩ | ⟨cuts, _, rolled⟩
    · rw [sceneAfter, if_pos whole]
    · rw [sceneAfter, if_neg cuts, (Bench.rollback_returns rolled).scene, Bench.afterSending_scene]
  · rcases ending with ⟨whole, rfl, _⟩ | ⟨cuts, rfl, _⟩
    · rw [afterReplay, if_pos whole]
      rfl
    · rw [afterReplay, if_neg cuts]
      rfl

/-- The place at which a reference run cuts the transaction with a number. -/
def cutOf (aborts : List (Value × Value)) (id : Value) : Value :=
  (Value.lookup id aborts).getD .null

/-- A part of a serial run: the transaction with a number and the results of its statements. -/
def IsPart (batch : Batch) (aborts : List (Value × Value)) (id : Value)
    (results : List StatementResult) : Prop :=
  ∃ transaction ∈ batch, transaction.id = id ∧
    List.Forall₂ (Replayed transaction (cutOf aborts id)) transaction.statements results

/-- The replay of transactions adds their parts in the given order. -/
theorem replayAll_returns {batch : Batch} (numbered : batch.Numbered)
    {aborts : List (Value × Value)} {order : List Value} (known : ∀ id ∈ order, id ∈ batch.ids)
    {trace result : Trace} {bench after : Bench}
    (returned : (replayAll batch aborts order trace).Returns bench result after) :
    ∃ parts, List.Forall₂ (IsPart batch aborts) order parts ∧
      result = (order.zip parts).foldl
        (fun trace part => afterReplay trace part.1 (cutOf aborts part.1) part.2) trace := by
  induction order generalizing trace bench with
  | nil =>
    obtain ⟨rfl, rfl⟩ := Task.returns_pure.1 returned
    exact ⟨[], .nil, rfl⟩
  | cons id rest hypothesis =>
    obtain ⟨transaction, member, rfl⟩ := List.mem_map.1 (known id List.mem_cons_self)
    simp only [replayAll, Task.returns_bind, numbered.member_returns member] at returned
    obtain ⟨_, _, ⟨rfl, rfl⟩, later, between, replaying, returned⟩ := returned
    obtain ⟨results, replayed, _, rfl⟩ := replay_returns replaying
    obtain ⟨parts, all, rfl⟩ :=
      hypothesis (fun id inside => known id (List.mem_cons_of_mem _ inside)) returned
    exact ⟨results :: parts, .cons ⟨_, member, rfl, replayed⟩ all, rfl⟩

/-- The results of a serial run are those of its parts. -/
theorem results_foldl_afterReplay (aborts : List (Value × Value)) (order : List Value)
    (parts : List (List StatementResult)) (same : order.length = parts.length) (trace : Trace) :
    ((order.zip parts).foldl
      (fun trace part => afterReplay trace part.1 (cutOf aborts part.1) part.2) trace).results =
        trace.results ++ parts.flatten := by
  induction order generalizing parts trace with
  | nil =>
    rw [List.eq_nil_of_length_eq_zero same.symm]
    simp
  | cons id rest hypothesis =>
    cases parts with
    | nil => cases same
    | cons results others =>
      rw [List.zip_cons_cons, List.foldl_cons, hypothesis others (Nat.succ.inj same)]
      simp [afterReplay]

/-- The order of a replay is the given one; for an empty batch there is no other. -/
theorem chosenOrder_eq {batch : Batch} (reference : Option Trace) {order : List Value}
    (permuted : order.Perm batch.ids) :
    chosenOrder batch reference (.array order) = .ok order := by
  unfold chosenOrder
  split
  · rfl
  next empty =>
    have nothing : order = [] := by simpa [Value.isFilled] using empty
    subst nothing
    have none : batch.ids = [] := List.nil_perm.1 permuted
    have filtered : ∀ values : List Value, values.filter (Order.has []) = [] := by
      intro values
      simp [Order.has]
    rw [none]
    unfold Order.preferred
    split
    · rfl
    · rw [filtered]
      rfl

/-- A serial run of a numbered batch in an order of all its transactions has the results of the
parts of that order. -/
theorem serial_results {batch : Batch} (numbered : batch.Numbered) {reference : Trace}
    {order : List Value} (permuted : order.Perm batch.ids) {bench after : Bench} {trace : Trace}
    (returned : (run batch .serialized (some reference) (.array order)).Returns bench trace after) :
    ∃ chosen parts, chosen.Perm batch.ids ∧
      List.Forall₂ (IsPart batch reference.abortedAt) chosen parts ∧
      trace.results = parts.flatten := by
  obtain ⟨start, ran, between, contents, _, _, running, _, rfl⟩ := run_returns.1 returned
  simp only [byStrategy, serial, Task.returns_bind, Task.returns_use] at running
  obtain ⟨chosen, _, ⟨found, rfl⟩, replaying⟩ := running
  rw [chosenOrder_eq (some reference) permuted] at found
  cases found
  obtain ⟨parts, all, rfl⟩ :=
    replayAll_returns numbered (fun id inside => permuted.subset inside) replaying
  refine ⟨order, parts, permuted, all, ?_⟩
  exact (results_foldl_afterReplay _ _ _ all.length_eq _).trans (List.nil_append _)

/-- Each statement of the batch has a first result in a serial run, which is the replay of that
statement. -/
theorem serial_resultFor {batch : Batch} (numbered : batch.Numbered) {reference : Trace}
    {order : List Value} (permuted : order.Perm batch.ids) {bench after : Bench} {trace : Trace}
    (returned : (run batch .serialized (some reference) (.array order)).Returns bench trace after)
    {transaction : OpenTransaction} (member : transaction ∈ batch) {statement : Statement}
    (own : statement ∈ transaction.statements) :
    ∃ result, trace.resultFor? statement = some result ∧
      Replayed transaction (cutOf reference.abortedAt transaction.id) statement result := by
  obtain ⟨chosen, parts, same, all, results⟩ := serial_results numbered permuted returned
  have listed : transaction.id ∈ chosen := same.symm.subset (Batch.id_mem member)
  obtain ⟨part, inside, owner, known, named, replayed⟩ := exists_related_of_mem_left all listed
  rw [numbered.eq_of_id known member named] at replayed
  obtain ⟨first, held, replay⟩ := exists_related_of_mem_left replayed own
  have met : (trace.resultFor? statement).isSome = true := by
    refine List.find?_isSome.2 ⟨first, ?_, ?_⟩
    · rw [results]
      exact List.mem_flatten_of_mem inside held
    · rw [replay.statement_eq]
      exact statement.alike_refl
  obtain ⟨result, found⟩ := Option.isSome_iff_exists.1 met
  refine ⟨result, found, ?_⟩
  have alike : result.statement.alike statement = true := by simpa using List.find?_some found
  have recorded : result ∈ parts.flatten := results ▸ List.mem_of_find?_eq_some found
  obtain ⟨part, inside, held⟩ := List.mem_flatten.1 recorded
  obtain ⟨_, _, another, present, rfl, matched⟩ := exists_related_of_mem_right all inside
  obtain ⟨other, theirs, recordedAs⟩ := exists_related_of_mem_right matched held
  rw [recordedAs.statement_eq] at alike
  obtain ⟨rfl, rfl⟩ := numbered.eq_of_alike present member theirs own alike
  exact recordedAs

end Run

end SerialCheck

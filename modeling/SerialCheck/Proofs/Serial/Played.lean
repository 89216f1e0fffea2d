import SerialCheck.Proofs.Serial.Replay
import SerialCheck.Proofs.Setup.Ready

/-!
# What a serial run comes to

On a ready bench every serial run returns. Its turns are the statements that each transaction sends
ahead of its cut, in the order of the transactions (`playedTurns`), and each executed statement has the
result that these turns give it (`Ready.serial_run`).
-/
namespace SerialCheck

namespace Transaction

/-- The statements ahead of the place at which the transaction is cut; all of them without a cut. -/
def ahead (transaction : Transaction) : Value → List Statement
  | .integer place => transaction.statements.take place.toNat
  | _ => transaction.statements

/-- The transaction is cut at one of its statements, or nowhere. -/
def Cuts (transaction : Transaction) (cut : Value) : Prop :=
  cut = .null ∨ ∃ place : Nat, cut = .integer place ∧ place < transaction.size

variable {transaction : Transaction} {cut : Value}

theorem ahead_prefix (transaction : Transaction) (cut : Value) :
    transaction.ahead cut <+: transaction.statements := by
  unfold ahead
  split
  · exact List.take_prefix _ _
  · exact List.prefix_refl _

/-- A statement is cut if its place is not among those ahead. -/
theorem isCut_eq (cuts : transaction.Cuts cut) (numbered : transaction.Numbered) {place : Nat}
    {statement : Statement} (found : transaction.statements[place]? = some statement) :
    Run.isCut cut statement = .ok (decide ((transaction.ahead cut).length ≤ place)) := by
  have within : place < transaction.size := (List.getElem?_eq_some_iff.1 found).1
  have index := (numbered.statements place statement found).2
  rcases cuts with rfl | ⟨bound, rfl, inside⟩
  · have length : (transaction.ahead .null).length = transaction.size := rfl
    rw [length, decide_eq_false (Nat.not_le.2 within)]
    rfl
  · have length : (transaction.ahead (.integer bound)).length = bound := by
      show (transaction.statements.take bound).length = bound
      rw [List.length_take, transaction.length_statements]
      omega
    show statement.index.isAtLeast (.integer bound) = _
    rw [length, index, Value.isAtLeast_integer]
    simp

end Transaction

/-- The executed results are those of statements that were answered as the turns before them say. -/
def Heard (base : Database) (turns : List Turn) (results : List StatementResult) : Prop :=
  ∀ result ∈ results, result.executed = .boolean true →
    ∃ earlier turn later, turns = earlier ++ turn :: later ∧
      result = Run.resultOf turn.statement
        (.ofAnswer (answerAt base earlier turn.transaction.id turn.statement.command)) false

namespace Heard

variable {base : Database} {turns : List Turn} {results : List StatementResult}

theorem nil (base : Database) (turns : List Turn) : Heard base turns [] := by
  intro result member
  cases member

/-- A skipped statement is not executed. -/
theorem skipped (heard : Heard base turns results) (statements : List Statement) :
    Heard base turns (results ++ statements.map (Run.skipped · false)) := by
  intro result member executed
  rcases List.mem_append.1 member with before | new
  · exact heard result before executed
  · obtain ⟨statement, _, rfl⟩ := List.mem_map.1 new
    cases executed

theorem snoc (heard : Heard base turns results) (turn : Turn) :
    Heard base (turns ++ [turn])
      (results ++ [Run.resultOf turn.statement
        (.ofAnswer (answerAt base turns turn.transaction.id turn.statement.command)) false]) := by
  intro result member executed
  rcases List.mem_append.1 member with before | new
  · obtain ⟨earlier, other, later, rfl, same⟩ := heard result before executed
    exact ⟨earlier, other, later ++ [turn], by simp, same⟩
  · rw [List.mem_singleton.1 new]
    exact ⟨turns, turn, [], rfl, rfl⟩

end Heard

namespace Run

/-- The errors of a statement without strays are reported, and so is an outcome without an error. -/
theorem exists_reportUnexpected {statement : Statement} {outcome : Outcome} (bench : Bench)
    (fit : statement.strays = [] ∨ outcome.error = none) :
    ∃ after, (reportUnexpected statement outcome).Returns bench () after := by
  unfold reportUnexpected
  cases failure : outcome.error with
  | none => exact ⟨bench, Task.returns_pure.2 ⟨rfl, rfl⟩⟩
  | some report =>
    have clean : statement.strays = [] := by
      rcases fit with clean | none
      · exact clean
      · rw [failure] at none
        cases none
    have judged : statement.expects report = .ok (statement.expected.matches? report) := by
      simp only [Statement.expects, clean]
    simp only [Task.returns_bind, Task.returns_use, judged]
    cases expected : statement.expected.matches? report with
    | true => exact ⟨bench, true, bench, ⟨rfl, rfl⟩, Task.returns_pure.2 ⟨rfl, rfl⟩⟩
    | false => exact ⟨_, false, bench, ⟨rfl, rfl⟩, Task.returns_log.2 rfl⟩

/-- Statements behind the cut are skipped. -/
theorem replayStatements_skipped {id cut : Value} {session : Session} {statements : List Statement}
    (trace : Trace) (bench : Bench)
    (behind : ∀ statement ∈ statements, isCut cut statement = .ok true) :
    (replayStatements id session cut statements trace).Returns bench
      { trace with results := trace.results ++ statements.map (skipped · false) } bench := by
  induction statements generalizing trace with
  | nil => exact Task.returns_pure.2 ⟨by simp, rfl⟩
  | cons statement rest hypothesis =>
    have first : isCut cut statement = .ok true := behind statement List.mem_cons_self
    simp only [replayStatements, Task.returns_bind, Task.returns_use, first]
    refine ⟨true, bench, ⟨rfl, rfl⟩, ?_⟩
    have others := hypothesis (trace.record (skipped statement false))
      fun other member => behind other (List.mem_cons_of_mem _ member)
    rw [Trace.record, List.append_assoc] at others
    exact others

section

variable {start bench : Bench} {batch : Batch} {admin : Session} {base : Database}
  {turns : List Turn} {transaction : OpenTransaction} {cut : Value} {trace : Trace}

/-- The turns of a transaction that sends statements. -/
def turnsOf (transaction : OpenTransaction) (statements : List Statement) : List Turn :=
  statements.map (Turn.mk transaction)

/-- The statements of a transaction among its own turns. -/
theorem statementsOf_turnsOf (transaction : OpenTransaction) (statements : List Statement) :
    statementsOf (turnsOf transaction statements) transaction.id = statements := by
  have own : (turnsOf transaction statements).filter (·.isOf transaction.id) =
      turnsOf transaction statements := by
    refine List.filter_eq_self.2 fun turn inside => ?_
    obtain ⟨_, _, rfl⟩ := List.mem_map.1 inside
    exact Value.alike_refl _
  rw [statementsOf, own, turnsOf, List.map_map]
  exact List.map_id _

/-- The statements of a transaction that follow those it has sent are replayed up to its cut. -/
theorem replayStatements_played (cast : batch.Cast admin) (member : transaction ∈ batch)
    {done further rest : List Statement}
    (all : transaction.statements = done ++ (further ++ rest))
    (uncut : ∀ statement ∈ further, isCut cut statement = .ok false)
    (behind : ∀ statement ∈ rest, isCut cut statement = .ok true)
    (underway : Underway start batch admin base turns
      (fun other => other = transaction ∧ done ≠ [] ∧ further ≠ []) bench)
    (before : statementsOf turns transaction.id = done) (heard : Heard base turns trace.results) :
    ∃ result after, (replayStatements transaction.id transaction.session cut (further ++ rest)
        trace).Returns bench result after ∧
      Underway start batch admin base (turns ++ turnsOf transaction further) (fun _ => False) after ∧
        Heard base (turns ++ turnsOf transaction further) result.results := by
  induction further generalizing done turns bench trace with
  | nil =>
    refine ⟨_, bench, replayStatements_skipped trace bench behind, ?_, ?_⟩
    · rw [turnsOf, List.map_nil, List.append_nil]
      exact underway.mono fun _ _ => False.elim
    · rw [turnsOf, List.map_nil, List.append_nil]
      exact heard.skipped rest
  | cons statement others hypothesis =>
    have next : transaction.statements[done.length]? = some statement := by
      rw [all, List.getElem?_append_right (Nat.le_refl _), Nat.sub_self]
      rfl
    have sent : statementsOf turns transaction.id = transaction.statements.take done.length := by
      rw [before, all, List.take_left]
    obtain ⟨reply, later⟩ := underway.send cast member next sent fun positive =>
      ⟨rfl, List.ne_nil_of_length_pos positive, List.cons_ne_nil _ _⟩
    have spoken := cast.spoken transaction member
    have fit : statement.strays = [] ∨ (Outcome.ofAnswer
        (answerAt base turns transaction.id statement.command)).error = none := by
      rcases transaction.at_place next with ⟨_, rfl⟩ | ⟨_, _, inside⟩ | ⟨_, rfl⟩
      · rw [spoken.opening]
        exact .inr rfl
      · exact .inl (spoken.strays statement (List.mem_append_left _ inside))
      · exact .inl (spoken.strays _ (List.mem_append_right _ (List.mem_singleton.2 rfl)))
    obtain ⟨reported, report⟩ := exists_reportUnexpected
      (bench.afterSending transaction.session statement.text) fit
    have own : (Turn.mk transaction statement).isOf transaction.id = true := Value.alike_refl _
    have active : ∀ other ∈ batch, (other = transaction ∧ done ++ [statement] ≠ [] ∧ others ≠ []) →
        if other.id = transaction.id then done.length + 1 < transaction.size
        else other = transaction ∧ done ≠ [] ∧ statement :: others ≠ [] := by
      rintro other _ ⟨rfl, _, some⟩
      have size : other.size = done.length + 1 + others.length + rest.length := by
        rw [← other.length_statements, all]
        simp only [List.length_append, List.length_cons]
        omega
      have positive : 0 < others.length := List.length_pos_iff.2 some
      rw [if_pos rfl]
      omega
    have recorded : Heard base (turns ++ [⟨transaction, statement⟩])
        ((noteSnapshot trace transaction.id statement).record (resultOf statement (.ofAnswer
          (answerAt base turns transaction.id statement.command)) false)).results := by
      have same : (noteSnapshot trace transaction.id statement).results = trace.results := by
        unfold noteSnapshot
        split <;> rfl
      rw [Trace.record, same]
      exact heard.snoc ⟨transaction, statement⟩
    obtain ⟨result, after, returned, ends, told⟩ := hypothesis
      (by rw [all, List.append_assoc]; rfl)
      (fun one inside => uncut one (List.mem_cons_of_mem _ inside))
      ((later.mono active).of_scene (reportUnexpected_returns report).scene)
      (by rw [statementsOf_append, before, statementsOf_singleton own])
      recorded
    refine ⟨result, after,
      replayStatements_sent (uncut statement List.mem_cons_self) reply report returned, ?_, ?_⟩
    · rw [List.append_assoc] at ends
      exact ends
    · rw [List.append_assoc] at told
      exact told

/-- A rollback that is replied to returns. -/
theorem exists_rollback {session : Session} {outcome : Outcome}
    (answered : (bench.scene.reply session (.text Bench.rollbackText)).result = .ok outcome) :
    ∃ after, (Bench.rollback session).Returns bench () after := by
  have recorded : ∀ reply bench, ∃ after,
      (Bench.recordRollback session reply).Returns bench () after := by
    intro reply bench
    unfold Bench.recordRollback
    split
    · exact ⟨_, Task.returns_log.2 rfl⟩
    · exact ⟨_, Task.returns_pure.2 ⟨rfl, rfl⟩⟩
  obtain ⟨after, record⟩ := recorded (bench.scene.reply session (.text Bench.rollbackText))
    (bench.afterSending session (.text Bench.rollbackText))
  refine ⟨after, ?_⟩
  simp only [Bench.rollback, Bench.sendRollback, Bench.outcomeOf, Task.returns_bind,
    Bench.send_returns, Task.returns_discard, Task.returns_release, Task.returns_pure]
  exact ⟨_, after, ⟨_, _, ⟨rfl, rfl⟩, (), after, record, rfl, rfl⟩, outcome, answered, rfl⟩

/-- A transaction is replayed up to its cut, and rolled back if it has one. -/
theorem replay_played (cast : batch.Cast admin) (member : transaction ∈ batch)
    (cuts : transaction.Cuts cut)
    (underway : Underway start batch admin base turns (fun _ => False) bench)
    (fresh : statementsOf turns transaction.id = []) (heard : Heard base turns trace.results) :
    ∃ result after, (replay transaction transaction.id cut trace).Returns bench result after ∧
      Underway start batch admin base (turns ++ turnsOf transaction (transaction.ahead cut))
        (fun _ => False) after ∧
        Heard base (turns ++ turnsOf transaction (transaction.ahead cut)) result.results := by
  have numbered := cast.numbered.each transaction member
  obtain ⟨rest, all⟩ := transaction.ahead_prefix cut
  have uncut : ∀ statement ∈ transaction.ahead cut, isCut cut statement = .ok false := by
    intro statement inside
    obtain ⟨place, within, found⟩ := List.mem_iff_getElem.1 inside
    have there : transaction.statements[place]? = some statement := by
      rw [← all, List.getElem?_append_left within, List.getElem?_eq_getElem within, found]
    rw [Transaction.isCut_eq cuts numbered there, decide_eq_false (Nat.not_le.2 within)]
  have behind : ∀ statement ∈ rest, isCut cut statement = .ok true := by
    intro statement inside
    obtain ⟨place, within, found⟩ := List.mem_iff_getElem.1 inside
    have there : transaction.statements[(transaction.ahead cut).length + place]? =
        some statement := by
      rw [← all, List.getElem?_append_right (Nat.le_add_right _ _), Nat.add_sub_cancel_left,
        List.getElem?_eq_getElem within, found]
    rw [Transaction.isCut_eq cuts numbered there, decide_eq_true (Nat.le_add_right _ _)]
  obtain ⟨played, between, returned, ends, told⟩ := replayStatements_played cast member
    (by rw [all]; rfl) uncut behind (underway.mono fun _ _ one => absurd rfl one.2.1) fresh heard
  rw [all] at returned
  rcases cuts with rfl | ⟨place, rfl, _⟩
  · refine ⟨played.complete transaction.id, between,
      Task.returns_bind.2 ⟨played, between, returned, ?_⟩, ends, told⟩
    exact Task.returns_pure.2 ⟨rfl, rfl⟩
  · obtain ⟨answered, undone⟩ := ends.rollback cast member
    obtain ⟨after, rolled⟩ := exists_rollback answered
    refine ⟨_, after, Task.returns_bind.2 ⟨played, between, returned,
      Task.returns_bind.2 ⟨(), after, rolled, Task.returns_pure.2 ⟨rfl, rfl⟩⟩⟩, ?_, told⟩
    exact (undone.mono fun _ _ => False.elim).of_scene (Bench.rollback_returns rolled).scene

/-- The turns of a serial run with the given aborts. -/
def playedTurns (aborts : List (Value × Value)) (order : List OpenTransaction) : List Turn :=
  order.flatMap fun transaction =>
    turnsOf transaction (transaction.ahead (cutOf aborts transaction.id))

/-- The turns of one transaction stand between those of the ones before it and behind it. -/
theorem playedTurns_split (aborts : List (Value × Value)) (front back : List OpenTransaction)
    (transaction : OpenTransaction) :
    playedTurns aborts (front ++ transaction :: back) = playedTurns aborts front ++
      (turnsOf transaction (transaction.ahead (cutOf aborts transaction.id)) ++
        playedTurns aborts back) := by
  rw [playedTurns, List.flatMap_append, List.flatMap_cons]
  rfl

/-- A transaction has no turns among those of others. -/
theorem statementsOf_playedTurns (aborts : List (Value × Value)) {order : List OpenTransaction}
    {id : Value} (others : ∀ other ∈ order, other.id.alike id = false) :
    statementsOf (playedTurns aborts order) id = [] := by
  have none : (playedTurns aborts order).filter (·.isOf id) = [] := by
    refine List.filter_eq_nil_iff.2 fun turn member => ?_
    obtain ⟨other, inside, here⟩ := List.mem_flatMap.1 member
    obtain ⟨statement, _, rfl⟩ := List.mem_map.1 here
    show ¬ other.id.alike id = true
    rw [others other inside]
    exact Bool.false_ne_true
  rw [statementsOf, none]
  rfl

/-- Transactions that have had no turns are replayed one after the other. -/
theorem replayAll_played (cast : batch.Cast admin) {aborts : List (Value × Value)}
    {order : List OpenTransaction} (listed : ∀ transaction ∈ order, transaction ∈ batch)
    (once : order.Nodup)
    (cuts : ∀ transaction ∈ order, transaction.Cuts (cutOf aborts transaction.id))
    (underway : Underway start batch admin base turns (fun _ => False) bench)
    (fresh : ∀ transaction ∈ order, statementsOf turns transaction.id = [])
    (heard : Heard base turns trace.results) :
    ∃ result after, (replayAll batch aborts (order.map (·.id)) trace).Returns bench result after ∧
      Underway start batch admin base (turns ++ playedTurns aborts order) (fun _ => False) after ∧
        Heard base (turns ++ playedTurns aborts order) result.results := by
  induction order generalizing turns bench trace with
  | nil =>
    refine ⟨trace, bench, Task.returns_pure.2 ⟨rfl, rfl⟩, ?_, ?_⟩
    · rwa [playedTurns, List.flatMap_nil, List.append_nil]
    · rwa [playedTurns, List.flatMap_nil, List.append_nil]
  | cons transaction rest hypothesis =>
    have member := listed transaction List.mem_cons_self
    obtain ⟨distinct, others⟩ := List.nodup_cons.1 once
    obtain ⟨played, between, returned, later, told⟩ := replay_played cast member
      (cuts transaction List.mem_cons_self) underway (fresh transaction List.mem_cons_self) heard
    have still : ∀ other ∈ rest, statementsOf (turns ++ turnsOf transaction
        (transaction.ahead (cutOf aborts transaction.id))) other.id = [] := by
      intro other inside
      have apart : transaction.id.alike other.id = false := by
        rw [Bool.eq_false_iff]
        intro same
        have equal := (cast.numbered.alike_iff member
          (listed other (List.mem_cons_of_mem _ inside))).1 same
        exact distinct (equal ▸ inside)
      have single : statementsOf (playedTurns aborts [transaction]) other.id = [] := by
        refine statementsOf_playedTurns aborts ?_
        simpa using apart
      rw [playedTurns, List.flatMap_singleton] at single
      rw [statementsOf_append, fresh other (List.mem_cons_of_mem _ inside), single]
      rfl
    obtain ⟨result, after, rested, ends, all⟩ := hypothesis
      (fun other inside => listed other (List.mem_cons_of_mem _ inside)) others
      (fun other inside => cuts other (List.mem_cons_of_mem _ inside)) later still told
    refine ⟨result, after, ?_, ?_, ?_⟩
    · simp only [List.map_cons, replayAll, Task.returns_bind,
        cast.numbered.member_returns member]
      exact ⟨transaction, bench, ⟨rfl, rfl⟩, played, between, returned, rested⟩
    · rw [playedTurns, List.flatMap_cons, ← List.append_assoc]
      exact ends
    · rw [playedTurns, List.flatMap_cons, ← List.append_assoc]
      exact all

end

end Run

/-- Rows leave the same contents in matching databases. -/
theorem Database.Matches.contents_eq {base other : Database} (same : base.Matches other)
    {rows : TableRows} (known : ∀ entry ∈ rows, base.Knows entry.1) (names : List String) :
    (other.adding rows).contents names = (base.adding rows).contents names := by
  unfold Database.contents
  simp only [same.table?_adding_eq known]

/-- On a ready bench a serial run returns; its turns are those that are played, they give the executed
statements their results, and what they commit is in the tables afterwards. -/
theorem Ready.serial_run {ground : Ground} {batch : Batch} {bench : Bench}
    (ready : Ready ground batch bench) (sound : ground.Sound) (cast : batch.Cast ground.admin)
    {reference : Trace} {order : List OpenTransaction} (permuted : order.Perm batch)
    (cuts : ∀ transaction ∈ batch,
      transaction.Cuts (Run.cutOf reference.abortedAt transaction.id)) :
    ∃ trace after, (Run.run batch .serialized (some reference)
        (.array (order.map (·.id)))).Returns bench trace after ∧ Ready ground batch after ∧
      Heard ground.base (Run.playedTurns reference.abortedAt order) trace.results ∧
        trace.finalState = (ground.base.adding (committed ground.base
          (Run.playedTurns reference.abortedAt order))).contents ground.schema.names := by
  obtain ⟨start, last, prepared, begins, _⟩ := ready.prepare sound cast.apart .serialized
  have once : order.Nodup := permuted.nodup_iff.2 (List.Nodup.of_map _ cast.numbered.distinct)
  have silent : Heard last [] (Trace.results {}) := Heard.nil last []
  obtain ⟨played, between, returned, ends, heard⟩ := Run.replayAll_played cast
    (fun transaction inside => permuted.subset inside) once
    (fun transaction inside => cuts transaction (permuted.subset inside)) begins.underway
    (fun _ _ => rfl) silent
  obtain ⟨after, read, again⟩ := Ready.finish begins sound cast.apart ends
  rw [List.nil_append] at heard read
  refine ⟨_, after, Run.run_returns.2 ⟨start, played, between, _, prepared,
    cast.numbered.unfit?_eq_none, ?_, read, rfl⟩, again, ?_, ?_⟩
  · have chosen : Run.chosenOrder batch (some reference) (.array (order.map (·.id))) =
        .ok (order.map (·.id)) := Run.chosenOrder_eq _ (permuted.map _)
    simp only [Run.byStrategy, Run.serial, Task.returns_bind, Task.returns_use, chosen]
    exact ⟨_, start, ⟨rfl, rfl⟩, returned⟩
  · intro result member executed
    obtain ⟨earlier, turn, later, all, same⟩ := heard result member executed
    rw [begins.restored.answerAt_eq] at same
    exact ⟨earlier, turn, later, all, same⟩
  · show Database.contents _ _ = _
    rw [begins.restored.committed_eq]
    exact begins.restored.contents_eq (fun _ inside => knows_of_mem_committed inside) _

end SerialCheck

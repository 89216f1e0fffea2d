import SerialCheck.Proofs.Interleaved.Prompt
import SerialCheck.Proofs.NoFalseAlarm

/-!
# Write skew is found

Two transactions of which each reads a table that the other one writes are skewed if their snapshots
overlap: neither sees the rows of the other. In a serial order the second one sees the rows of the
first, so none of the orders agrees with such a run, and the check says so (`checkBatch_write_skew`).
-/
namespace SerialCheck

/-- A transaction reads a table that another one writes. -/
def OpenTransaction.ReadsFrom (reader writer : OpenTransaction) : Prop :=
  ∃ name, (∃ statement ∈ reader.data, statement.kind.returnsRows = true ∧
      statement.command = .read name) ∧
    ∃ statement ∈ writer.data, statement.command = .write name

/-- The closing statement of one transaction is not sent before the first data statement of another
one. -/
def Moment.Overlaps (moment : Moment) (one other : OpenTransaction) : Prop :=
  ∀ earlier sending later, moment.sendings = earlier ++ sending :: later →
    sending.statement = one.closing →
      ∃ before ∈ earlier, other.data.head? = some before.statement

namespace Comparison

/-- A difference between rows is found if neither statement failed and the warnings agree. -/
theorem statementFinding?_of_difference {test serial : StatementResult} (fine : test.failed = false)
    (whole : serial.failed = false) (warnings : test.warning = serial.warning)
    (returns : test.statement.kind.returnsRows = true) {difference : Rows.Difference}
    (differs : Rows.difference? test.rows serial.rows = some difference) :
    statementFinding? test serial = .ok (some (rowsFinding test serial difference)) := by
  rw [statementFinding?, fine, whole, if_neg (not_not_intro rfl), Bool.false_and,
    if_neg Bool.false_ne_true, effectFinding?, warnings, Value.alike_refl, returns, differs]
  rfl

/-- A difference is found if there is one at a result that is not blocked. -/
theorem exists_firstFinding {run : Trace} {results : List StatementResult} {outcome : Option Finding}
    (ended : firstFinding? run results = .ok outcome) {test counterpart : StatementResult}
    (held : test ∈ results) (unblocked : test.isBlocked = false)
    (met : run.resultFor? test.statement = some counterpart) {finding : Finding}
    (differs : statementFinding? test counterpart = .ok (some finding)) :
    ∃ first, outcome = some first := by
  induction results with
  | nil => cases held
  | cons head rest hypothesis =>
    unfold firstFinding? at ended
    split at ended
    next blocked =>
      refine hypothesis ended ?_
      rcases List.mem_cons.1 held with rfl | inside
      · rw [unblocked] at blocked
        cases blocked
      · exact inside
    · split at ended
      · cases ended
      next serial found =>
        split at ended
        · cases ended
        next first compared =>
          cases ended
          exact ⟨first, rfl⟩
        next compared =>
          refine hypothesis ended ?_
          rcases List.mem_cons.1 held with rfl | inside
          · rw [met] at found
            cases found
            rw [differs] at compared
            cases compared
          · exact inside

end Comparison

section

variable {base : Database} {turns : List Turn} {id : Value}

/-- Nothing is committed before a snapshot that is taken before every commit. -/
theorem committed_beforeSnapshot_eq_nil
    (taken : ∀ earlier turn later, turns = earlier ++ turn :: later →
      turn.statement.command = .commit →
        ∃ one ∈ earlier, one.isOf id = true ∧ one.statement.touches base = true) :
    committed base (beforeSnapshot base turns id) = [] := by
  refine List.flatMap_eq_nil_iff.2 fun turn inside => if_neg fun commit => ?_
  obtain ⟨earlier, later, cut⟩ := List.append_of_mem inside
  obtain ⟨rest, all⟩ : beforeSnapshot base turns id <+: turns := List.takeWhile_prefix _
  obtain ⟨one, held, own, touching⟩ := taken earlier turn (later ++ rest)
    (by rw [← all, cut, List.append_assoc, List.cons_append]) commit
  have before : one ∈ beforeSnapshot base turns id := by
    rw [cut]
    exact List.mem_append_left _ held
  have untouched := List.mem_takeWhile_imp before
  simp [own, touching] at untouched

/-- What a transaction writes to a known table is among its rows. -/
theorem rowsFor_rows_ne_nil {transaction : Transaction} {name : String} {statement : Statement}
    (member : statement ∈ transaction.data) (writes : statement.command = .write name)
    (known : base.Knows name) : rowsFor name (transaction.rows base) ≠ [] := by
  have added : (name, Value.row [statement.text]) ∈ transaction.rows base := by
    refine List.mem_flatMap.2 ⟨statement, List.mem_append_left _ (List.mem_cons_of_mem _ member), ?_⟩
    rw [Statement.rows, writes]
    simp [known]
  have mine : (name, Value.row [statement.text]) ∈ (transaction.rows base).filter (·.1 == name) :=
    List.mem_filter.2 ⟨added, beq_self_eq_true _⟩
  exact List.ne_nil_of_mem (List.mem_map_of_mem mine)

/-- Only the closing statement of a transaction can be a commit. -/
theorem Transaction.Spoken.eq_closing {transaction : Transaction} (spoken : transaction.Spoken)
    {statement : Statement} (member : statement ∈ transaction.statements)
    (commits : statement.command = .commit) : statement = transaction.closing := by
  obtain ⟨place, found⟩ := List.mem_iff_getElem?.1 member
  have final := spoken.commit_last found commits
  rcases transaction.at_place found with ⟨first, _⟩ | ⟨_, inner, _⟩ | ⟨_, rfl⟩
  · have size := transaction.two_le_size
    omega
  · omega
  · rfl

end

namespace Finished

variable {base : Database} {batch : Batch} {moment : Moment} {reader : OpenTransaction}
  {statement : Statement} {earlier later : List Turn}

/-- A statement that was sent stands in its transaction behind those that were sent before. -/
theorem statements_eq (finished : Finished base batch moment) (member : reader ∈ batch)
    (all : moment.turns = earlier ++ ⟨reader, statement⟩ :: later) :
    ∃ rest, reader.statements = statementsOf earlier reader.id ++ statement :: rest := by
  have own : (Turn.mk reader statement).isOf reader.id = true := Value.alike_refl _
  obtain ⟨rest, cover⟩ := finished.inOrder member
  have cut : moment.turns = earlier ++ [⟨reader, statement⟩] ++ later := by
    rw [all, List.append_assoc]
    rfl
  rw [cut, statementsOf_append, statementsOf_append, statementsOf_singleton own] at cover
  exact ⟨statementsOf later reader.id ++ rest, by rw [← cover]; simp⟩

/-- If the snapshots overlap, a transaction sees nothing of what is committed during the run. -/
theorem committed_eq_nil (finished : Finished base batch moment) (numbered : batch.Numbered)
    (spoken : ∀ transaction ∈ batch, transaction.Spoken) (member : reader ∈ batch)
    (about : reader.IsAbout base)
    (overlap : ∀ other ∈ batch, other ≠ reader → moment.Overlaps other reader)
    (all : moment.turns = earlier ++ ⟨reader, statement⟩ :: later) :
    committed base (beforeSnapshot base earlier reader.id) = [] := by
  refine committed_beforeSnapshot_eq_nil fun front turn back cut commit => ?_
  have sequence : moment.turns = front ++ turn :: (back ++ ⟨reader, statement⟩ :: later) := by
    rw [all, cut]
    simp
  have known : turn.transaction ∈ batch := finished.known turn (by rw [sequence]; simp)
  have mine : turn.statement ∈ turn.transaction.statements := by
    refine (finished.inOrder known).subset (mem_statementsOf ?_ (Value.alike_refl _))
    rw [sequence]
    simp
  by_cases same : turn.transaction = reader
  · -- the reader has statements left, so that it cannot have committed
    obtain ⟨rest, cover⟩ := finished.statements_eq member all
    have sent : turn.statement ∈ statementsOf earlier reader.id :=
      mem_statementsOf (by rw [cut]; simp) (by rw [Turn.isOf, same]; exact Value.alike_refl _)
    exact absurd commit
      ((spoken reader member).not_commit cover (List.cons_ne_nil _ _) turn.statement sent)
  · have closing := (spoken turn.transaction known).eq_closing mine commit
    obtain ⟨before, after, parts, rfl, tail⟩ := List.map_eq_append_iff.1 sequence
    obtain ⟨sending, further, rfl, same', _⟩ := List.map_eq_cons_iff.1 tail
    have sent : sending.statement = turn.transaction.closing := by
      rw [← closing, ← same']
      rfl
    obtain ⟨one, held, head⟩ := overlap turn.transaction known same before sending further parts sent
    have data : one.statement ∈ reader.data := List.mem_of_mem_head? head
    have theirs : one.transaction ∈ batch := finished.sound.sent one (by rw [parts]; simp [held])
    have taken : one.turn ∈ moment.turns := by
      rw [sequence]
      exact List.mem_append_left _ (List.mem_map_of_mem held)
    have listed : one.statement ∈ one.transaction.statements :=
      (finished.inOrder theirs).subset (mem_statementsOf taken (Value.alike_refl _))
    obtain ⟨owner, _⟩ := numbered.eq_of_alike theirs member listed
      (List.mem_append_left _ (List.mem_cons_of_mem _ data)) (Statement.alike_refl _)
    refine ⟨one.turn, List.mem_map_of_mem held, ?_, about one.statement data⟩
    show one.transaction.id.alike reader.id = true
    rw [owner]
    exact Value.alike_refl _

end Finished

section

variable {base : Database} {writer reader : OpenTransaction} {statement : Statement}
  {before after : List Turn}

/-- In a serial run of two transactions the turns before a statement of the second one are those of the
first one and its own. -/
theorem playedBefore_eq (apart : writer ≠ reader)
    (played : Run.turnsOf writer writer.statements ++ Run.turnsOf reader reader.statements =
      before ++ ⟨reader, statement⟩ :: after) :
    ∃ own rest, before = Run.turnsOf writer writer.statements ++ Run.turnsOf reader own ∧
      reader.statements = own ++ statement :: rest := by
  have behind : ∀ middle, Run.turnsOf reader reader.statements =
      middle ++ ⟨reader, statement⟩ :: after → ∃ own rest, middle = Run.turnsOf reader own ∧
        reader.statements = own ++ statement :: rest := by
    intro middle cut
    obtain ⟨own, others, parts, rfl, tail⟩ := List.map_eq_append_iff.1 cut
    obtain ⟨one, rest, rfl, same, _⟩ := List.map_eq_cons_iff.1 tail
    cases same
    exact ⟨own, rest, rfl, parts⟩
  rcases List.append_eq_append_iff.1 played with ⟨middle, rfl, cut⟩ | ⟨middle, cut, tail⟩
  · obtain ⟨own, rest, rfl, parts⟩ := behind middle cut
    exact ⟨own, rest, rfl, parts⟩
  · cases middle with
    | nil =>
      obtain ⟨own, rest, same, parts⟩ := behind [] tail.symm
      refine ⟨own, rest, ?_, parts⟩
      rw [← same, List.append_nil, cut, List.append_nil]
    | cons turn rest =>
      rw [List.cons_append] at tail
      injection tail with same _
      have held : (Turn.mk reader statement) ∈ Run.turnsOf writer writer.statements := by
        rw [cut, same]
        exact List.mem_append_right _ List.mem_cons_self
      obtain ⟨_, _, equal⟩ := List.mem_map.1 held
      exact absurd (congrArg Turn.transaction equal) apart

/-- The second of two transactions in a serial order sees more of a table that the first one has written
than it sees in an overlapping run. -/
theorem rowsSeen_length_lt {name : String} {table : StoredTable} {turns : List Turn}
    (found : base.table? name = some table) (spoken : writer.Spoken)
    (commits : writer.closing.kind = .commit) {written : Statement}
    (member : written ∈ writer.data) (writes : written.command = .write name)
    (apart : writer.id.alike reader.id = false) {own : List Statement}
    (mine : statementsOf turns reader.id = own)
    (nothing : committed base (beforeSnapshot base turns reader.id) = []) :
    (rowsSeen base turns reader.id table).length <
      (rowsSeen base (Run.turnsOf writer writer.statements ++ Run.turnsOf reader own) reader.id
        table).length := by
  have named : table.name = name := Database.name_of_table? found
  have known : base.Knows name := by rw [Database.Knows, found]; rfl
  have others : statementsOf (Run.turnsOf writer writer.statements) reader.id = [] := by
    have none : (Run.turnsOf writer writer.statements).filter (·.isOf reader.id) = [] := by
      refine List.filter_eq_nil_iff.2 fun turn inside => ?_
      obtain ⟨_, _, rfl⟩ := List.mem_map.1 inside
      show ¬ writer.id.alike reader.id = true
      rw [apart]
      exact Bool.false_ne_true
    rw [statementsOf, none]
    rfl
  have idle : hasTouched base (Run.turnsOf writer writer.statements) reader.id = false := by
    rw [hasTouched, others]
    rfl
  have ended : writer.statements.any (fun one => decide (one.command = .commit)) = true := by
    refine List.any_eq_true.2
      ⟨writer.closing, List.mem_append_right _ (List.mem_singleton.2 rfl), ?_⟩
    rw [spoken.closing, if_pos commits]
    rfl
  have positive : 0 < (rowsFor name (writer.rows base)).length :=
    List.length_pos_iff.2 (rowsFor_rows_ne_nil member writes known)
  have statements : statementsOf (Run.turnsOf writer writer.statements ++ Run.turnsOf reader own)
      reader.id = own := by
    rw [statementsOf_append, others, Run.statementsOf_turnsOf, List.nil_append]
  rw [rowsSeen, rowsSeen, nothing, mine, statements, beforeSnapshot_append_of_idle idle,
    committed_append, committed_turnsOf spoken (List.prefix_refl _), ended, if_pos rfl, named,
    rowsFor_append]
  simp only [List.length_append, rowsFor_nil, List.length_nil]
  omega

end

namespace Finished

variable {ground : Ground} {batch : Batch} {moment : Moment} {writer reader : OpenTransaction}

/-- Where no statement meets an error, no transaction is aborted. -/
theorem cut_eq_null (finished : Finished ground.base batch moment) (cast : batch.Cast ground.admin)
    (member : reader ∈ batch) (about : reader.IsAbout ground.base) :
    Run.cutOf moment.progress.trace.abortedAt reader.id = .null ∧
      reader.statements = (moment.sendingsOf reader.id).map (·.statement) := by
  rcases finished.ahead_of_cut member with ⟨null, ahead⟩ | ⟨earlier, last, all, conflict, _⟩
  · rw [null] at ahead
    exact ⟨null, ahead⟩
  · have mine : last ∈ moment.sendingsOf reader.id := by
      rw [all]
      exact List.mem_append_right _ (List.mem_singleton.2 rfl)
    obtain ⟨inside, own⟩ := List.mem_filter.1 mine
    have owner := (cast.numbered.alike_iff (finished.sound.sent last inside) member).1 own
    have listed : last.statement ∈ reader.statements := by
      refine (finished.inOrder member).subset ?_
      rw [Moment.turns, moment.statementsOf_turns]
      exact List.mem_map_of_mem mine
    obtain ⟨before, after, cut⟩ := List.append_of_mem inside
    obtain ⟨rows, answer⟩ := about.exists_answer (cast.spoken reader member) listed
      (before.map Sending.turn) last.transaction.id
    rw [finished.outcome_eq cut, answer] at conflict
    cases conflict

/-- The result of every statement that was sent is recorded. -/
theorem result_mem (finished : Finished ground.base batch moment) (member : reader ∈ batch)
    {sending : Sending} (sent : sending ∈ moment.sendingsOf reader.id) :
    sending.result ∈ moment.progress.trace.results :=
  (List.mem_filter.1 (finished.final.result_mem_view finished.sound member sent)).1

/-- The serial run of two transactions of which the second one reads from the first one leads to a
finding, if their snapshots overlap in the interleaved run. -/
theorem judges_inconsistent (finished : Finished ground.base batch moment) (sound : ground.Sound)
    (cast : batch.Cast ground.admin) (permuted : [writer, reader].Perm batch)
    (early : ∀ sending ∈ moment.sendings, sending.isLate = false)
    (about : ∀ transaction ∈ batch, transaction.IsAbout ground.base)
    (commits : writer.closing.kind = .commit) (skew : reader.ReadsFrom writer)
    (overlap : moment.Overlaps writer reader) :
    Judges ground batch (moment.traceOn ground) ([writer, reader].map (·.id))
      fun verdict => ∃ finding, verdict = .inconsistent finding := by
  intro bench ready
  have numbered := cast.numbered
  have writerKnown : writer ∈ batch := permuted.subset List.mem_cons_self
  have readerKnown : reader ∈ batch :=
    permuted.subset (List.mem_cons_of_mem _ (List.mem_singleton.2 rfl))
  have apart : writer ≠ reader := by
    have once : [writer, reader].Nodup :=
      permuted.nodup_iff.2 (List.Nodup.of_map _ numbered.distinct)
    simpa using once
  have others : ∀ other ∈ batch, other ≠ reader → moment.Overlaps other reader := by
    intro other inside another
    have either := permuted.symm.subset inside
    simp only [List.mem_cons, List.not_mem_nil, or_false] at either
    rw [either.resolve_right another]
    exact overlap
  have uncut : ∀ transaction ∈ batch,
      Run.cutOf (moment.traceOn ground).abortedAt transaction.id = .null := fun one inside =>
    (finished.cut_eq_null cast inside (about one inside)).1
  obtain ⟨serial, after, returned, again, heard, _⟩ := ready.serial_run sound cast permuted
    fun one inside => .inl (uncut one inside)
  obtain ⟨name, ⟨statement, inside, returns, reads⟩, written, member, writes⟩ := skew
  have own : statement ∈ reader.statements :=
    List.mem_append_left _ (List.mem_cons_of_mem _ inside)
  -- what the statement was answered in the interleaved run
  obtain ⟨sending, sent, rfl⟩ := List.mem_map.1
    ((finished.cut_eq_null cast readerKnown (about reader readerKnown)).2 ▸ own)
  obtain ⟨held, mine⟩ := List.mem_filter.1 sent
  have owner := (numbered.alike_iff (finished.sound.sent sending held) readerKnown).1 mine
  obtain ⟨earlier, later, all⟩ := List.append_of_mem held
  have sequence : moment.turns = earlier.map Sending.turn ++
      ⟨reader, sending.statement⟩ :: later.map Sending.turn := by
    rw [Moment.turns, all, List.map_append, List.map_cons, Sending.turn, owner]
  obtain ⟨table, present⟩ : ∃ table, ground.base.table? name = some table := by
    have touching := about reader readerKnown sending.statement inside
    rw [Statement.touches, reads] at touching
    exact Option.isSome_iff_exists.1 (of_decide_eq_true touching)
  have result : sending.result = Run.resultOf sending.statement
      { rows := some (rowsSeen ground.base (earlier.map Sending.turn) reader.id table) } false := by
    rw [Sending.result, finished.outcome_eq all, early sending held, owner, reads,
      answerAt_read present]
    rfl
  -- what it was answered in the serial run
  obtain ⟨counterpart, met, replayed⟩ :=
    Run.serial_resultFor numbered (permuted.map _) returned readerKnown own
  rw [uncut reader readerKnown] at replayed
  obtain ⟨before, turn, rest, played, same⟩ := heard counterpart (List.mem_of_find?_eq_some met)
    (replayed.executed_of_ahead rfl)
  have said : turn.statement = sending.statement := by
    rw [← replayed.statement_eq, same]
    rfl
  have turn_eq : turn = ⟨reader, sending.statement⟩ := by
    rw [← said] at own ⊢
    exact Run.turn_eq_of_played numbered permuted readerKnown own
      (played ▸ List.mem_append_right before List.mem_cons_self)
  have blocks : Run.playedTurns (moment.traceOn ground).abortedAt [writer, reader] =
      Run.turnsOf writer writer.statements ++ Run.turnsOf reader reader.statements := by
    rw [Run.playedTurns, List.flatMap_cons, List.flatMap_singleton, uncut writer writerKnown,
      uncut reader readerKnown]
    rfl
  rw [blocks, turn_eq] at played
  obtain ⟨statements, _, rfl, cover⟩ := playedBefore_eq apart played
  have counter : counterpart = Run.resultOf sending.statement
      { rows := some (rowsSeen ground.base (Run.turnsOf writer writer.statements ++
        Run.turnsOf reader statements) reader.id table) } false := by
    rw [same, turn_eq, reads, answerAt_read present]
    rfl
  -- the two differ in the number of rows
  have fewer := rowsSeen_length_lt present (cast.spoken writer writerKnown) commits member writes
    ((numbered.id_isWhole writerKnown).not_alike (numbered.id_isWhole readerKnown)
      fun ids => apart (numbered.eq_of_id writerKnown readerKnown ids))
    ((numbered.each reader readerKnown).before_unique
      (finished.statements_eq readerKnown sequence).choose_spec cover)
    (finished.committed_eq_nil numbered cast.spoken readerKnown (about reader readerKnown) others sequence)
  obtain ⟨outcome, judged⟩ := finished.final.judged finished.sound numbered
    fun transaction known statement listed =>
      (Run.serial_resultFor numbered (permuted.map _) returned known listed).imp fun _ => And.left
  obtain ⟨finding, rfl⟩ := Comparison.exists_firstFinding judged (finished.result_mem readerKnown sent)
    (early sending held) met (Comparison.statementFinding?_of_difference
      (by rw [result]; rfl) (by rw [counter]; rfl) (by rw [result, counter]; rfl) returns
      (by
        rw [result, counter, Run.resultOf, Run.resultOf, Run.keptRows, Run.keptRows, returns]
        exact if_pos (Nat.ne_of_lt fewer)))
  exact ⟨serial, after, _, returned, again, congrArg (Except.map _) judged, finding, rfl⟩

end Finished

/-- On a suitable bench without rules an interleaved run of generated transactions that are about its
tables returns, and the bench is ready for serial runs. -/
theorem Bench.Suits.prompt_run {batch : Batch} {bench restored : Bench} (suits : bench.Suits batch)
    (generated : batch.Generated) (quiet : bench.server.rules = []) (steady : bench.now.IsSteady)
    (restores : Bench.reproduce.Returns bench () restored)
    (about : ∀ transaction ∈ batch, transaction.IsAbout restored.server.database) :
    ∃ ground last between, ground.Sound ∧ batch.Cast ground.admin ∧
      ground.settings = bench.settings ∧ (∀ transaction ∈ batch, transaction.IsAbout ground.base) ∧
        PromptEnd batch bench last ∧ Finished ground.base batch last ∧
          (Run.run batch .interleaved none .null).Returns bench (last.traceOn ground) between ∧
            Ready ground batch between := by
  obtain ⟨ground, fresh, sound, ready, again, spares, apart, settings⟩ := suits.ready restores
  have cast := generated.cast apart
  -- a run from the fresh bench is one from the given bench, and the other way round
  have forth : ∀ after, Bench.reproduce.Returns fresh () after →
      Bench.reproduce.Returns bench () after := by
    intro after other
    rw [← (again.unique other).2]
    exact restores
  have back : ∀ after, Bench.reproduce.Returns bench () after →
      Bench.reproduce.Returns fresh () after := by
    intro after other
    rw [← (restores.unique other).2]
    exact again
  have there : ∀ transaction ∈ batch, transaction.IsAbout ground.base := by
    obtain ⟨start, database, prepared, begins, _⟩ := ready.prepare sound apart .interleaved
    obtain ⟨⟨⟩, opened, restoring, recorded⟩ := Task.returns_bind.1 prepared
    have same : start.server = restored.server := by
      rw [Task.returns_log.1 recorded, (again.unique restoring).2]
    have tables : restored.server.database = database := by
      rw [← same]
      exact begins.underway.stage.database
    intro transaction member statement inside
    rw [← begins.restored.statement_eq.2, ← tables]
    exact about transaction member statement inside
  obtain ⟨last, between, ended, finished, returned, ends⟩ := ready.prompt_run sound cast
    (spares.now ▸ steady) (spares.quiet quiet) there
  exact ⟨ground, last, between, sound, cast, settings, there,
    ⟨Run.passes_of_reproduce forth ended.passes, ended.early, ended.recorded, fun moment passes =>
      ended.final moment (Run.passes_of_reproduce back passes)⟩,
    finished, Run.run_of_reproduce forth returned, ends⟩

namespace Sample

/-- The words for two transactions each of which reads a table that the other one adds a row to. -/
def skewed : List UInt32 :=
  drawing (reading 0 ++ adding secondOne) ++ drawing (reading secondOne ++ adding 0)

/-- Two such transactions. -/
def skewedShape : Shape where
  ids := [.integer 1, .integer 2]
  connections := [some 1, some 2]
  data :=
    [[(.select, .read "t0"), (.insert, .write "t1")],
      [(.select, .read "t1"), (.insert, .write "t0")]]

/-- The pair is generated, and the other bench is restored for it. Then it is run there. -/
def restoredAndTested (target : Bench) : Task (Batch × Bench × Trace) := do
  let batch ← pair
  set (target.noting batch)
  Bench.reproduce
  let restored ← get
  set (target.noting batch)
  let test ← Run.run batch .interleaved none .null
  return (batch, restored, test)

/-- One transaction reads from another one if that can be seen. -/
theorem readsFrom_of_dataOf {reader writer : OpenTransaction} (name : String)
    (reads : (.select, .read name) ∈ dataOf reader) (writes : (.insert, .write name) ∈ dataOf writer) :
    reader.ReadsFrom writer := by
  obtain ⟨statement, inside, read⟩ := List.mem_map.1 reads
  obtain ⟨other, member, written⟩ := List.mem_map.1 writes
  obtain ⟨kind, command⟩ := Prod.mk.inj read
  exact ⟨name, ⟨statement, inside, by rw [kind]; rfl, command⟩, other, member,
    (Prod.mk.inj written).2⟩

/-- A transaction is about the tables that its statements are seen to be about. -/
theorem isAbout_of_dataOf {transaction : OpenTransaction} {base : Database} {names : List String}
    (known : ∀ name ∈ names, base.Knows name) {seen : List (StatementKind × Command)}
    (same : dataOf transaction = seen)
    (all : ∀ entry ∈ seen, ∃ name ∈ names, entry.2 = .read name ∨ entry.2 = .write name) :
    transaction.IsAbout base := by
  intro statement inside
  obtain ⟨name, listed, either⟩ := of_dataOf _ same all statement inside
  have there : base.Knows name := known name listed
  unfold Statement.touches
  rcases either with read | write
  · rw [show statement.command = .read name from read]
    exact decide_eq_true there
  · rw [show statement.command = .write name from write]
    exact decide_eq_true there

/-- The first data statement of one transaction is recorded before the closing one of another. -/
def reaches (test : Trace) (one other : OpenTransaction) : Bool :=
  other.data.head?.any fun first =>
    first ∈ (test.results.map (·.statement)).takeWhile (· != one.closing)

/-- So it is sent before. -/
theorem overlaps_of_reaches {test : Trace} {one other : OpenTransaction} {moment : Moment}
    (sent : moment.sendings.map (·.statement) <+: test.results.map (·.statement))
    (reached : reaches test one other = true) : moment.Overlaps one other := by
  intro earlier sending later all closing
  obtain ⟨first, head, before⟩ := (Option.any_eq_true _ _).1 reached
  obtain ⟨rest, cut⟩ := sent
  have stopped : (test.results.map (·.statement)).takeWhile (· != one.closing) <+:
      earlier.map (·.statement) := by
    rw [← cut, all, List.map_append, List.map_cons, List.append_assoc, List.cons_append, closing,
      List.takeWhile_append]
    split
    · simp
    · exact List.takeWhile_prefix _
  obtain ⟨other, inside, same⟩ := List.mem_map.1 (stopped.subset (of_decide_eq_true before))
  exact ⟨other, inside, by rw [head, same]⟩

/-- The two transactions are run with overlapping snapshots. -/
theorem restoredAndTested_skewed :
    ((restoredAndTested (scheduled [] [1, 2, 1, 2, 1, 2]) (generator skewed)).1.toOption.map
        fun made => (shapeOf made.1,
          made.1.map (·.closing.kind), made.2.1.server.database.tables.map (·.name),
            made.1.all fun one => made.1.all fun other => reaches made.2.2 one other)) =
      some (skewedShape, [.commit, .commit], ["t0", "t1"], true) := by
  decide +kernel

end Sample

end SerialCheck

import SerialCheck.Proofs.Generated.Known
import SerialCheck.Proofs.InSequence
import SerialCheck.Proofs.Interleaved.Ending
import SerialCheck.Proofs.Snapshots.Engaged

/-!
# The recorded order of the snapshots

A run records that a transaction takes its snapshot when it sends a statement at place one; the engine takes
a snapshot when it reads or writes a table for a transaction that has none. Over tables that the engine
knows both are the same: wherever an interleaved run or a serial one without aborts has come to, it has
recorded the snapshots that the engine has taken, in the order in which it took them
(`snapshotOrder_taken`).
-/
namespace SerialCheck

/-- No outcome without an error is a lock conflict. -/
theorem Outcome.conflicts_of_rows (rows : Option Rows) : Outcome.conflicts { rows } = false := rfl

section Interleaved

variable {batch : Batch} {start : Bench} {moment after : Moment}

/-- At a moment of an interleaved run the batch engages the engine, no statement met an error, and the turns
tell which snapshots the engine has taken. -/
structure Moment.Witnesses (batch : Batch) (start : Bench) (moment : Moment) : Prop where
  /-- Each transaction has the work that goes with the statements that it has sent. -/
  engaged : batch.Engaged (fun transaction => (moment.sendingsOf transaction.id).length)
    moment.bench.server
  /-- No statement met an error. -/
  answered : ∀ sending ∈ moment.sendings, ∃ rows, sending.reply.result = .ok { rows }
  /-- The engine has taken the snapshots. -/
  took : batch.Took start.server ((takers moment.turns).map (·.id)) moment.bench.server

namespace Moment.Witnesses

/-- Recording an outcome without an error leaves the server alone. -/
theorem record {transaction : OpenTransaction} {statement : Statement} {rows : Option Rows}
    {blocked : Bool} {progress result : Progress} {bench later : Bench}
    (recorded : (Run.record transaction statement { rows } blocked progress).Returns bench result later) :
    later.server = bench.server := by
  have agrees := (Run.record_returns recorded).2
  rw [Outcome.conflicts_of_rows] at agrees
  exact agrees.server

/-- A settled statement has no effect on the engine. -/
theorem settle (witnesses : moment.Witnesses batch start) (sound : Sound batch moment)
    (numbered : batch.Numbered) {parked : Parked} {transaction : OpenTransaction} {outcome : Outcome}
    {progress result : Progress} {bench : Bench} (waiting : parked ∈ moment.progress.parked)
    (found : batch.find? parked.id = some transaction) (answered : parked.result = .ok outcome)
    (recorded : (Run.record transaction parked.statement outcome true progress).Returns moment.bench
      result bench) : Moment.Witnesses batch start ⟨result, bench, moment.sendings⟩ := by
  -- what a parked statement waits for is the reply to the last one that its transaction has sent
  obtain ⟨_, _, earlier, last, all, _, held⟩ := sound.waiting_of_found numbered waiting found
  have inside : last ∈ moment.sendings := by
    have listed : last ∈ moment.sendingsOf transaction.id := by
      rw [all]
      simp
    exact (List.mem_filter.1 listed).1
  obtain ⟨rows, replied⟩ := witnesses.answered last inside
  have same : outcome = { rows } := by
    rw [held] at answered
    exact Except.ok.inj (answered.symm.trans replied)
  subst same
  have still := record recorded
  refine ⟨?_, witnesses.answered, ?_⟩
  · show batch.Engaged _ bench.server
    rw [still]
    exact witnesses.engaged
  · show batch.Took start.server _ bench.server
    rw [still]
    exact witnesses.took

/-- A statement that is sent takes a snapshot if it is the first data statement. -/
theorem send (witnesses : moment.Witnesses batch start) (sound : Sound batch moment)
    (numbered : batch.Numbered) (spoken : ∀ transaction ∈ batch, transaction.Spoken)
    {transaction : OpenTransaction} {statement : Statement} {chosen bench : Bench} {progress : Progress}
    (runnable : transaction ∈ moment.progress.runnable batch) (agrees : moment.bench.Agrees chosen)
    (next : transaction.statements[moment.progress.sent transaction.id]? = some statement)
    (sent : (Run.sendStatement transaction statement moment.progress).Returns chosen progress bench) :
    Moment.Witnesses batch start
      ⟨progress, bench, moment.sendings ++ [⟨transaction, statement, chosen⟩]⟩ := by
  obtain ⟨member, free⟩ := Progress.mem_runnable.1 runnable
  obtain ⟨nothing, within⟩ := Progress.canContinue_iff.1 free
  have going := (sound.standing transaction member).going_of_canContinue nothing within
  have count : moment.progress.sent transaction.id = (moment.sendingsOf transaction.id).length :=
    going.count
  rw [count] at next
  obtain ⟨delay, rows, note, after, executed, engaged, takes⟩ :=
    witnesses.engaged.execute numbered member (spoken transaction member) next
  let sending : Sending := ⟨transaction, statement, chosen⟩
  have replied : sending.reply = ⟨delay, .ok { rows }, note⟩ := by
    show (transaction.session.execute statement.text chosen.server).1 = _
    rw [agrees.server, executed]
  have outcome : sending.outcome = { rows } := by
    rw [Sending.outcome, replied]
    rfl
  -- parking the statement and recording its outcome both leave the server as the reply left it
  have reached : bench.server = after := by
    obtain ⟨waited, scene, went⟩ := Run.sendStatement_returns sent
    have moved : waited.server = after := by
      refine (congrArg Scene.server scene).trans ?_
      show (transaction.session.execute statement.text chosen.server).2 = _
      rw [agrees.server, executed]
    by_cases late : sending.isLate = true
    · rw [if_pos late] at went
      exact went.1.server.trans moved
    · rw [if_neg late] at went
      have recorded := went.2
      rw [outcome] at recorded
      exact (record recorded).trans moved
  constructor
  · show batch.Engaged _ bench.server
    rw [reached]
    refine engaged.congr fun other inside _ _ => ?_
    by_cases same : other = transaction
    · subst same
      rw [if_pos rfl, Moment.sendingsOf_append, List.length_append]
      rfl
    · have apart : other.id ≠ transaction.id := fun ids => same (numbered.eq_of_id inside member ids)
      rw [if_neg apart, Moment.sendingsOf_append_other ((numbered.id_isWhole member).not_alike
        (numbered.id_isWhole inside) apart.symm)]
  · intro other inside
    rcases List.mem_append.1 inside with earlier | last
    · exact witnesses.answered other earlier
    · rw [List.mem_singleton.1 last]
      exact ⟨rows, congrArg Reply.result replied⟩
  · have turns : (Moment.mk progress bench (moment.sendings ++ [sending])).turns =
        moment.turns ++ [⟨transaction, statement⟩] := by
      rw [Moment.turns, List.map_append]
      rfl
    have new : (takers [⟨transaction, statement⟩]).map (·.id) =
        if statement.takesSnapshot then [transaction.id] else [] := by
      cases taken : statement.takesSnapshot <;> simp [takers, taken]
    show batch.Took start.server _ bench.server
    rw [reached, turns, takers_append, List.map_append, new]
    exact takes _ _ witnesses.took

/-- Each step of an interleaved run keeps to that. -/
theorem next (witnesses : moment.Witnesses batch start) (sound : Sound batch moment)
    (numbered : batch.Numbered) (spoken : ∀ transaction ∈ batch, transaction.Spoken)
    (step : Run.Next batch moment after) : after.Witnesses batch start := by
  cases step with
  | settle parked transaction outcome progress bench waiting finished found answered recorded =>
    exact witnesses.settle sound numbered waiting found answered recorded
  | send first others transaction statement chosen progress bench runnable picked next sent =>
    obtain ⟨member, agrees⟩ := Run.pick_returns picked
    exact witnesses.send sound numbered spoken (runnable ▸ member) agrees next sent
  | wait first others bench parked none waited =>
    have same : bench.server = moment.bench.server :=
      congrArg Scene.server (Run.waitForParked_returns waited)
    refine ⟨?_, witnesses.answered, ?_⟩
    · show batch.Engaged _ bench.server
      rw [same]
      exact witnesses.engaged
    · show batch.Took start.server _ bench.server
      rw [same]
      exact witnesses.took

/-- So it holds at every moment that a run can come to. -/
theorem of_reached (engaged : batch.Engaged (fun _ => 0) start.server) (numbered : batch.Numbered)
    (spoken : ∀ transaction ∈ batch, transaction.Spoken) (reached : Run.Reached batch start moment) :
    moment.Witnesses batch start := by
  induction reached with
  | first => exact ⟨engaged, fun _ none => absurd none List.not_mem_nil, .refl batch start.server⟩
  | next reached step witnesses =>
    exact witnesses.next (Sound.of_reached numbered reached) numbered spoken step

end Moment.Witnesses

end Interleaved

section Serial

variable {batch : Batch} {first : Server} {bench : Bench} {trace : Trace}

namespace Run

/-- A statement is recorded as one that takes a snapshot if it is in the place of the first data
statement. -/
theorem noteSnapshot_snapshotOrder (trace : Trace) (id : Value) (statement : Statement) :
    (noteSnapshot trace id statement).snapshotOrder =
      trace.snapshotOrder ++ if statement.takesSnapshot then [id] else [] := by
  unfold noteSnapshot
  split
  · rfl
  · exact (List.append_nil _).symm

/-- The further statements of a transaction are replayed without an error, and the snapshot that the engine
takes meanwhile is recorded. -/
theorem replayStatements_took (numbered : batch.Numbered) {transaction : OpenTransaction}
    (member : transaction ∈ batch) (spoken : transaction.Spoken) {done further : List Statement}
    (all : transaction.statements = done ++ further)
    (engaged : batch.Engaged (fun other => if other.id = transaction.id then done.length else 0)
      bench.server)
    (took : batch.Took first trace.snapshotOrder bench.server) :
    ∃ result after, (replayStatements transaction.id transaction.session .null further trace).Returns
        bench result after ∧ batch.Engaged (fun _ => 0) after.server ∧
      batch.Took first result.snapshotOrder after.server := by
  -- only this transaction counts as begun: the others are over or still to come
  induction further generalizing done bench trace with
  | nil =>
    refine ⟨trace, bench, Task.returns_pure.2 ⟨rfl, rfl⟩, engaged.congr fun _ _ begun _ => ?_, took⟩
    exact absurd begun (Nat.lt_irrefl 0)
  | cons statement others hypothesis =>
    have next : transaction.statements[if transaction.id = transaction.id then done.length else 0]? =
        some statement := by
      rw [if_pos rfl, all, List.getElem?_append_right (Nat.le_refl _), Nat.sub_self]
      rfl
    obtain ⟨delay, rows, note, after, executed, later, takes⟩ :=
      engaged.execute numbered member spoken next
    have server : (bench.afterSending transaction.session statement.text).server = after :=
      congrArg Prod.snd executed
    have reply : (bench.scene.reply transaction.session statement.text).result = .ok { rows } :=
      congrArg (fun answered => answered.1.result) executed
    have still : batch.Engaged
        (fun other => if other.id = transaction.id then (done ++ [statement]).length else 0)
        (bench.afterSending transaction.session statement.text).server := by
      rw [server]
      refine later.congr fun other _ _ _ => ?_
      rw [if_pos rfl, List.length_append, List.length_singleton]
      split <;> rfl
    have noted : batch.Took first ((noteSnapshot trace transaction.id statement).record
        (resultOf statement { rows } false)).snapshotOrder
        (bench.afterSending transaction.session statement.text).server := by
      rw [server]
      show batch.Took first (noteSnapshot trace transaction.id statement).snapshotOrder after
      rw [noteSnapshot_snapshotOrder]
      exact takes first trace.snapshotOrder took
    obtain ⟨result, end_, returned, ends, told⟩ :=
      hypothesis (by rw [all, List.append_assoc]; rfl) still noted
    have report : (reportUnexpected statement { rows }).Returns
        (bench.afterSending transaction.session statement.text) () _ :=
      Task.returns_pure.2 ⟨rfl, rfl⟩
    exact ⟨result, end_, replayStatements_sent rfl reply report returned, ends, told⟩

/-- Transactions are replayed one after the other, and every snapshot that the engine takes meanwhile is
recorded. -/
theorem replayAll_took (numbered : batch.Numbered) (spoken : ∀ transaction ∈ batch, transaction.Spoken)
    {order : List Value} (known : ∀ id ∈ order, id ∈ batch.ids)
    (engaged : batch.Engaged (fun _ => 0) bench.server)
    (took : batch.Took first trace.snapshotOrder bench.server) :
    ∃ result after, (replayAll batch [] order trace).Returns bench result after ∧
      batch.Took first result.snapshotOrder after.server := by
  induction order generalizing bench trace with
  | nil => exact ⟨trace, bench, Task.returns_pure.2 ⟨rfl, rfl⟩, took⟩
  | cons id order hypothesis =>
    obtain ⟨transaction, member, rfl⟩ := List.mem_map.1 (known id List.mem_cons_self)
    have begins : batch.Engaged
        (fun other => if other.id = transaction.id then ([] : List Statement).length else 0)
        bench.server := engaged.congr fun _ _ _ _ => ite_self _
    have whole : transaction.statements = [] ++ transaction.statements := rfl
    obtain ⟨played, between, returned, ends, told⟩ :=
      replayStatements_took numbered member (spoken transaction member) whole begins took
    have replayed : (replay transaction transaction.id .null trace).Returns bench
        (played.complete transaction.id) between :=
      Task.returns_bind.2 ⟨played, between, returned, Task.returns_pure.2 ⟨rfl, rfl⟩⟩
    have listed : batch.Took first (played.complete transaction.id).snapshotOrder between.server := told
    obtain ⟨result, after, rest, final⟩ :=
      hypothesis (fun other inside => known other (List.mem_cons_of_mem _ inside)) ends listed
    refine ⟨result, after, ?_, final⟩
    simp only [replayAll, Task.returns_bind]
    exact ⟨transaction, bench, (numbered.member_returns member).2 ⟨rfl, rfl⟩, _, between, replayed, rest⟩

/-- Transactions are replayed after those in front of them. -/
theorem replayAll_append (batch : Batch) (aborts : List (Value × Value)) (front rest : List Value)
    (trace : Trace) : replayAll batch aborts (front ++ rest) trace =
      replayAll batch aborts front trace >>= replayAll batch aborts rest := by
  induction front generalizing trace with
  | nil => rfl
  | cons id front hypothesis =>
    simp only [List.cons_append, replayAll, bind_assoc, hypothesis]

end Run

end Serial

/-- Over tables that the engine knows the recorded order of the snapshots is the engine's. Whatever the
choices and the delays are, an interleaved run has at every station of its loop recorded the transactions
whose snapshots the engine has taken since the run began, in the order in which it took them. So has a
serial run whose reference has no aborts after every transaction that it has replayed, and until then it
meets no fault. -/
theorem snapshotOrder_taken {batch : Batch} {schema : Schema} {start : Bench}
    (generated : batch.GeneratedOver schema) (known : schema.KnownTo start.server.database)
    (clear : schema.Clear) (calm : start.server.Calm)
    (opened : ∀ transaction ∈ batch, transaction.session.isClosed start.server = false)
    (distinct : ∀ left ∈ batch, ∀ right ∈ batch,
      left.session.connection = right.session.connection → left = right) :
    (∀ doings station, Run.Goes batch start doings station →
      batch.Took start.server station.moment.progress.trace.snapshotOrder station.moment.bench.server) ∧
    ∀ (reference : Option Trace) (order : Value) (ids : List Value),
      (∀ trace ∈ reference, trace.abortedAt = []) → Run.chosenOrder batch reference order = .ok ids →
        ∀ front rest, ids = front ++ rest → (∀ id ∈ front, id ∈ batch.ids) →
          ∃ trace between, (Run.replayAll batch [] front {}).Returns start trace between ∧
            Run.serial batch reference order start = Run.replayAll batch [] rest trace between ∧
              batch.Took start.server trace.snapshotOrder between.server := by
  have numbered := generated.generated.numbered
  have spoken : ∀ transaction ∈ batch, transaction.Spoken := fun transaction member =>
    (generated.each transaction member).generated.numbered_spoken.2
  have engaged : batch.Engaged (fun _ => 0) start.server := by
    refine ⟨calm, fun transaction member => (generated.each transaction member).isAbout known clear,
      distinct, fun transaction member => ?_⟩
    obtain ⟨number, connection, uses⟩ := Session.exists_uses (opened transaction member)
    exact ⟨number, connection, uses, fun begun => absurd begun (Nat.lt_irrefl 0)⟩
  constructor
  · intro doings station goes
    have reached := (goes.tracks numbered).reached
    rw [reached.snapshotOrder]
    exact (Moment.Witnesses.of_reached engaged numbered spoken reached).took
  · rintro reference order ids whole chosen front rest rfl inside
    have begins : batch.Took start.server ({} : Trace).snapshotOrder start.server := .refl _ _
    obtain ⟨trace, between, returned, took⟩ := Run.replayAll_took numbered spoken inside engaged begins
    refine ⟨trace, between, returned, ?_, took⟩
    have none : reference.elim [] Trace.abortedAt = [] := by
      cases reference with
      | none => rfl
      | some given => exact whole given rfl
    rw [Run.serial, chosen, none]
    show Run.replayAll batch [] (front ++ rest) {} start = _
    rw [Run.replayAll_append, returned.bind_apply]

namespace Sample

/-- A bench for the runs of two transactions, with the tables that they are about. -/
def stocked (rules : List Rule) (schedule : List Int) : Bench :=
  { scheduled rules schedule with
    server := { connections := [{}, {}], database := { tables := [⟨"t0", [], []⟩, ⟨"t1", [], []⟩] }, rules } }

/-- It knows the tables of a schema if they are among these. -/
theorem stocked_knows (rules : List Rule) (schedule : List Int) {schema : Schema}
    (listed : ∀ table ∈ schema.tables, table.name ∈ ["t0", "t1"]) :
    schema.KnownTo (stocked rules schedule).server.database where
  knows table member := by
    rcases List.mem_pair.1 (listed table member) with name | name <;> rw [name]
    · exact List.find?_isSome.2 ⟨⟨"t0", [], []⟩, List.mem_cons_self, beq_self_eq_true _⟩
    · exact List.find?_isSome.2 ⟨⟨"t1", [], []⟩, List.mem_cons_of_mem _ List.mem_cons_self,
        beq_self_eq_true _⟩
  plain table member := by
    have zero : Command.ofText "CREATE TABLE t0" = .create "t0" := by decide +kernel
    have one : Command.ofText "CREATE TABLE t1" = .create "t1" := by decide +kernel
    rcases List.mem_pair.1 (listed table member) with name | name <;> rw [name]
    · exact Command.isPlainName_of_create zero
    · exact Command.isPlainName_of_create one

/-- Its two connections are open, and are those of the two transactions. -/
theorem stocked_sessions (rules : List Rule) (schedule : List Int) {batch : Batch}
    (connections : batch.map (·.session.connection) = [some 1, some 2]) :
    (∀ transaction ∈ batch, transaction.session.isClosed (stocked rules schedule).server = false) ∧
      ∀ left ∈ batch, ∀ right ∈ batch,
        left.session.connection = right.session.connection → left = right := by
  constructor
  · intro transaction member
    have listed : transaction.session.connection ∈ [some 1, some 2] :=
      connections ▸ List.mem_map_of_mem member
    rcases List.mem_pair.1 listed with number | number <;> rw [Session.isClosed, number] <;> rfl
  · have others : (scheduled [] schedule).Suits batch :=
      scheduled_suits (fun _ none => absurd none List.not_mem_nil) _ connections
    exact others.distinct

/-- The pair is generated, and then run on another bench as that is. -/
def drawnAndRun (target : Bench) : Task (Batch × Trace × Server) := do
  let batch ← pair
  set target
  let trace ← Run.interleaved batch
  return (batch, trace, (← get).server)

/-- What is seen of such a run is seen at the last station of a run of generated transactions. -/
theorem exists_station {start target after : Bench} (grammar : start.synthesizer = .grammar)
    {batch : Batch} {trace : Trace} {server : Server}
    (returned : (drawnAndRun target).Returns start (batch, trace, server) after)
    (distinct : batch.ids.Nodup) :
    batch.GeneratedOver start.schema ∧ ∃ doings station, Run.Goes batch target doings station ∧
      station.moment.progress.trace = trace ∧ station.moment.bench.server = server := by
  simp only [drawnAndRun, Task.returns_bind, Task.returns_set, Task.returns_get, Task.returns_pure,
    Prod.mk.injEq] at returned
  obtain ⟨_, _, made, _, _, rfl, _, last, ran, _, _, ⟨rfl, rfl⟩, ⟨rfl, rfl, rfl⟩, rfl⟩ := returned
  have generated := generatedOver_of_pair grammar made distinct
  refine ⟨generated, ?_⟩
  obtain ⟨_, _, _, _, takes, same, _⟩ := interleaved_ends generated.generated.numbered _
  cases same.symm.trans ran
  cases takes with
  | path goes ends =>
    cases ends with
    | returns moment final => exact ⟨_, _, goes, rfl, rfl⟩

/-- Two transactions that each read what the other one writes take their snapshots in the order in which
they are scheduled. -/
theorem drawnAndRun_skewed :
    ((drawnAndRun (stocked late [1, 2, 2, 1]) (generator skewed)).1.toOption.map fun made =>
        (shapeOf made.1, made.2.1.snapshotOrder)) =
      some (skewedShape, [.integer 2, .integer 1]) := by
  decide +kernel

end Sample

/-- Two transactions that each read what the other one writes: the second one takes its snapshot first. -/
theorem snapshotOrder_taken_skewed :
    ∃ batch doings station trace between, Sample.shapeOf batch = Sample.skewedShape ∧
      Run.Goes batch (Sample.stocked Sample.late [1, 2, 2, 1]) doings station ∧
      station.moment.progress.trace.snapshotOrder = [.integer 2, .integer 1] ∧
      batch.Took (Sample.stocked Sample.late [1, 2, 2, 1]).server [.integer 2, .integer 1]
        station.moment.bench.server ∧
      (Run.replayAll batch [] [.integer 2] {}).Returns (Sample.stocked Sample.late [1, 2, 2, 1]) trace
        between ∧
      batch.Took (Sample.stocked Sample.late [1, 2, 2, 1]).server trace.snapshotOrder between.server := by
  obtain ⟨⟨batch, trace, server⟩, last, returned, seen⟩ :=
    Task.returns_of_map Sample.drawnAndRun_skewed
  simp only [Prod.mk.injEq] at seen
  obtain ⟨shape, listed⟩ := seen
  obtain ⟨ids, connections, _⟩ := Sample.Shape.mk.inj shape
  obtain ⟨generated, doings, station, goes, recorded, _⟩ :=
    Sample.exists_station rfl returned (by rw [ids]; decide)
  have known : (Sample.generator Sample.skewed).schema.KnownTo
      (Sample.stocked Sample.late [1, 2, 2, 1]).server.database := Sample.stocked_knows _ _ (by decide)
  have clear : (Sample.generator Sample.skewed).schema.Clear := by
    intro table member column own name key
    rcases List.mem_pair.1 member with rfl | rfl <;> cases List.mem_singleton.1 own <;> cases key <;> rfl
  have calm : (Sample.stocked Sample.late [1, 2, 2, 1]).server.Calm := by
    intro rule member
    rw [List.mem_singleton.1 member]
    exact Sample.delaying_onlyDelays _ _
  obtain ⟨opened, distinct⟩ := Sample.stocked_sessions Sample.late [1, 2, 2, 1] connections
  obtain ⟨interleaved, serial⟩ := snapshotOrder_taken generated known clear calm opened distinct
  have took := interleaved doings station goes
  obtain ⟨replayed, between, ran, _, listing⟩ := serial none
    (.array [.integer 2, .integer 1]) [.integer 2, .integer 1] nofun rfl [.integer 2] [.integer 1] rfl (by
      rw [ids]
      decide)
  rw [recorded, listed] at took
  exact ⟨batch, doings, station, replayed, between, shape, goes, by rw [recorded, listed], took, ran, listing⟩

namespace Sample

/-- A table with a column whose name is the word FROM. -/
def fromSchema : Schema := ⟨[⟨"t0", [{ name := "FROM", dataType := .boolean }], none⟩]⟩

/-- The words from which a statement is drawn that reads one column. -/
def listing : List UInt32 := [secondOne, 0, 0x80000000, 0, 0, 0, 0x80000000, 0]

/-- A bench on which transactions of one data statement are drawn over that table. -/
def fromGenerator : Bench :=
  { generator (drawing listing ++ drawing (adding 0)) with
    settings := { (generator []).settings with minSize := .integer 1, maxSize := .integer 1 }
    schema := fromSchema }

/-- What is seen of the two transactions: the one reads a table of that name. -/
def fromShape : Shape where
  ids := [.integer 1, .integer 2]
  connections := [some 1, some 2]
  data := [[(.select, .read "FROM")], [(.insert, .write "t0")]]

/-- One of them reads that column, and the engine takes its name for that of the table. So it takes no
snapshot, although one is recorded. -/
theorem drawnAndRun_fromColumn :
    ((drawnAndRun (stocked [] []) fromGenerator).1.toOption.map fun made =>
        (shapeOf made.1, made.2.1.snapshotOrder,
          made.1.snapshots (made.2.2.since (stocked [] []).server) (stocked [] []).server)) =
      some (fromShape, [.integer 1, .integer 2], [.integer 2]) := by
  decide +kernel

end Sample

/-- Where a column has the word FROM for its name the recorded order need not be the engine's: it lists a
transaction whose snapshot the engine has never taken. -/
theorem snapshotOrder_not_taken_fromColumn :
    ∃ batch doings station, batch.GeneratedOver Sample.fromSchema ∧
      Sample.fromSchema.KnownTo (Sample.stocked [] []).server.database ∧
      (Sample.stocked [] []).server.Calm ∧
      (∀ transaction ∈ batch,
        transaction.session.isClosed (Sample.stocked [] []).server = false) ∧
      (∀ left ∈ batch, ∀ right ∈ batch,
        left.session.connection = right.session.connection → left = right) ∧
      Run.Goes batch (Sample.stocked [] []) doings station ∧
      station.moment.progress.trace.snapshotOrder = [.integer 1, .integer 2] ∧
      batch.snapshots (station.moment.bench.server.since (Sample.stocked [] []).server)
        (Sample.stocked [] []).server = [.integer 2] ∧
      ¬ batch.Took (Sample.stocked [] []).server station.moment.progress.trace.snapshotOrder
        station.moment.bench.server := by
  obtain ⟨⟨batch, trace, server⟩, last, returned, seen⟩ :=
    Task.returns_of_map Sample.drawnAndRun_fromColumn
  simp only [Prod.mk.injEq] at seen
  obtain ⟨shape, recorded, taken⟩ := seen
  obtain ⟨ids, connections, _⟩ := Sample.Shape.mk.inj shape
  obtain ⟨generated, doings, station, goes, rfl, rfl⟩ :=
    Sample.exists_station rfl returned (by rw [ids]; decide)
  obtain ⟨opened, distinct⟩ := Sample.stocked_sessions [] [] connections
  have calm : (Sample.stocked [] []).server.Calm := fun _ none => absurd none List.not_mem_nil
  have known : Sample.fromSchema.KnownTo (Sample.stocked [] []).server.database :=
    Sample.stocked_knows [] [] (by decide)
  refine ⟨batch, doings, station, generated, known, calm, opened, distinct, goes, recorded, taken, ?_⟩
  intro took
  have same := taken.symm.trans (took.order.trans recorded)
  simp at same

end SerialCheck

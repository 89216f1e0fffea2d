import SerialCheck.Proofs.Generated.Batches
import SerialCheck.Proofs.Search

/-!
# No false alarms

On a server with snapshot isolation whose rules only delay texts, the check of generated transactions of
which none both reads and writes ends with a consistent verdict, if all serial orders may be tried
(`checkBatch_consistent`).
-/
namespace SerialCheck

/-- Generated transactions with connections of their own are understood by the engine. -/
theorem Batch.Generated.cast {batch : Batch} (generated : batch.Generated) {admin : Session}
    (apart : batch.Apart admin) : batch.Cast admin where
  numbered := generated.numbered
  apart := apart
  spoken := fun transaction member => (generated.each transaction member).numbered_spoken.2

/-- The bench on which the transactions of a batch are the last ones. -/
def Bench.noting (bench : Bench) (batch : Batch) : Bench :=
  { bench with lastBatch := batch.map OpenTransaction.toTransaction }

theorem Bench.Suits.noting {bench : Bench} {batch : Batch} (suits : bench.Suits batch) :
    (bench.noting batch).Suits batch :=
  ⟨suits.calm, suits.idle, suits.orderly, suits.setup, suits.sessions, suits.keeps, suits.distinct⟩

/-- A run depends on its bench only by what restoring the database makes of it. -/
theorem Run.run_of_reproduce {batch : Batch} {strategy : Strategy} {reference : Option Trace}
    {order : Value} {bench fresh after : Bench} {trace : Trace}
    (restored : ∀ after, Bench.reproduce.Returns bench () after →
      Bench.reproduce.Returns fresh () after)
    (returned : (run batch strategy reference order).Returns bench trace after) :
    (run batch strategy reference order).Returns fresh trace after := by
  obtain ⟨start, ran, between, contents, prepared, rest⟩ := run_returns.1 returned
  obtain ⟨⟨⟩, opened, restoring, recorded⟩ := Task.returns_bind.1 prepared
  exact run_returns.2 ⟨start, ran, between, contents,
    Task.returns_bind.2 ⟨(), opened, restored opened restoring, recorded⟩, rest⟩

/-- So do the moments that it passes through. -/
theorem Run.passes_of_reproduce {batch : Batch} {bench fresh : Bench} {moment : Moment}
    (restored : ∀ after, Bench.reproduce.Returns bench () after →
      Bench.reproduce.Returns fresh () after)
    (passes : Passes batch bench moment) : Passes batch fresh moment := by
  obtain ⟨start, prepared, reached⟩ := passes
  obtain ⟨⟨⟩, opened, restoring, recorded⟩ := Task.returns_bind.1 prepared
  exact ⟨start, Task.returns_bind.2 ⟨(), opened, restored opened restoring, recorded⟩, reached⟩

/-- At the moment at which the interleaved run of generated transactions on a suitable bench ends, every
statement was answered in its turn, and the bench is left ready for serial runs. -/
theorem Bench.Suits.ended {bench between : Bench} {batch : Batch} {test : Trace} {moment : Moment}
    (suits : bench.Suits batch) (generated : batch.Generated)
    (ends : Run.EndsAt batch bench test between moment) :
    ∃ ground, ground.Sound ∧ batch.Cast ground.admin ∧ ground.settings = bench.settings ∧
      Finished ground.base batch moment ∧ test = moment.traceOn ground ∧
        Ready ground batch between := by
  obtain ⟨⟨start, prepared, reached⟩, final, recorded⟩ := ends
  obtain ⟨⟨⟩, restored, restoring, _⟩ := Task.returns_bind.1 prepared
  obtain ⟨ground, fresh, sound, ready, again, _, apart, settings⟩ := suits.ready restoring
  have cast := generated.cast apart
  have passes : Run.Passes batch fresh moment := by
    refine Run.passes_of_reproduce (fun after other => ?_) ⟨start, prepared, reached⟩
    rw [(restoring.unique other).2] at again
    exact again
  exact ⟨ground, sound, cast, settings, ready.ended sound cast ⟨passes, final, recorded⟩⟩

/-- The interleaved run of generated transactions on a suitable bench has come to a final moment, and the
bench is ready for serial runs. -/
theorem Bench.Suits.tested {bench between : Bench} {batch : Batch} {test : Trace}
    (suits : bench.Suits batch) (generated : batch.Generated)
    (returned : (Run.run batch .interleaved none .null).Returns bench test between) :
    ∃ ground moment, ground.Sound ∧ batch.Cast ground.admin ∧ ground.settings = bench.settings ∧
      Finished ground.base batch moment ∧ test = moment.traceOn ground ∧
        Ready ground batch between := by
  obtain ⟨moment, ends⟩ := Run.exists_endsAt generated.numbered returned
  obtain ⟨ground, rest⟩ := suits.ended generated ends
  exact ⟨ground, moment, rest⟩

/-- A check runs the batch interleaved and then searches through the candidate orders. -/
theorem Check.checkBatch_returns {batch : Batch} {bench after : Bench} {verdict : Verdict} :
    (checkBatch batch).Returns bench verdict after ↔
      ∃ test between limit,
        (Run.run batch .interleaved none .null).Returns (bench.noting batch) test between ∧
          Order.limitOf between.settings.maxOrders
              (Order.preferred batch.ids (some test)).length = .ok limit ∧
            (searchOrders batch test none
              (Order.candidates limit (Order.preferred batch.ids (some test)))).Returns between
                verdict after := by
  simp only [checkBatch, Task.returns_bind, Task.returns_modify, Task.returns_get, Task.returns_use]
  constructor
  · rintro ⟨_, _, rfl, test, between, tested, _, _, ⟨rfl, rfl⟩, limit, _, ⟨limited, rfl⟩, searched⟩
    exact ⟨test, _, limit, tested, limited, searched⟩
  · rintro ⟨test, between, limit, tested, limited, searched⟩
    exact ⟨(), _, rfl, test, between, tested, _, _, ⟨rfl, rfl⟩, limit, _, ⟨limited, rfl⟩, searched⟩

/-- The check of generated transactions of which none both reads and writes ends with a consistent
verdict whenever the interleaved run returns, if the limit admits all serial orders. -/
theorem checkBatch_consistent {batch : Batch} {bench between : Bench} {test : Trace} {limit : Int}
    (generated : batch.Generated) (divided : ∀ transaction ∈ batch, transaction.OneSided)
    (suits : bench.Suits batch)
    (limited : Order.limitOf bench.settings.maxOrders batch.length = .ok limit)
    (room : (batch.length.factorial : Int) ≤ limit)
    (returned : (Run.run batch .interleaved none .null).Returns (bench.noting batch) test between) :
    ∃ after, (Check.checkBatch batch).Returns bench .consistent after := by
  obtain ⟨ground, moment, sound, cast, settings, finished, rfl, ready⟩ :=
    suits.noting.tested generated returned
  have numbered := cast.numbered
  have preferred := finished.preferred_perm numbered
  have length : (Order.preferred batch.ids (some (moment.traceOn ground))).length = batch.length :=
    preferred.length_eq.trans (List.length_map _)
  have whole : ∀ id ∈ Order.preferred batch.ids (some (moment.traceOn ground)), id.IsWhole := by
    intro id inside
    obtain ⟨transaction, member, rfl⟩ := List.mem_map.1 (preferred.subset inside)
    exact numbered.id_isWhole member
  obtain ⟨order, serialized⟩ : ∃ order, Serialized batch ground.base moment.turns order :=
    exists_serialized numbered cast.spoken finished.known fun _ => finished.inOrder
  let preferredOrder := Order.preferred batch.ids (some (moment.traceOn ground))
  have all : ∀ ids ∈ Order.candidates limit preferredOrder,
      Judges ground batch (moment.traceOn ground) ids fun _ => True := by
    intro ids listed
    obtain ⟨others, same, rfl⟩ :=
      Order.exists_order ((Order.perm_of_mem_candidates listed).trans preferred)
    exact finished.judges sound cast same
  have found : (completed batch order).map (·.id) ∈ Order.candidates limit preferredOrder := by
    refine Order.mem_candidates whole ?_ (by rw [length]; exact room)
    exact ((serialized.completed_perm numbered).map _).trans preferred.symm
  obtain ⟨after, searched⟩ : ∃ after, (Check.searchOrders batch (moment.traceOn ground) none
      (Order.candidates limit preferredOrder)).Returns between .consistent after :=
    Check.searchOrders_consistent all
      ⟨_, found, finished.judges_consistent sound cast divided serialized⟩ ready
  refine ⟨after, Check.checkBatch_returns.2 ⟨_, between, limit, returned, ?_, searched⟩⟩
  rw [ready.settings, settings, length]
  exact limited

namespace Sample

/-- The word by which the second one of two is drawn; zero draws the first one. -/
def secondOne : UInt32 := 0x40000000

/-- The words from which a statement is drawn that reads a table. -/
def reading (table : UInt32) : List UInt32 := [secondOne, table, 0, 0, 0x80000000, 0]

/-- The words from which a statement is drawn that adds a row to a table. -/
def adding (table : UInt32) : List UInt32 := [0, table, 0, 0, 0, 0x80000000, 0, 0]

/-- The words from which a transaction is drawn, given those for its data statements. -/
def drawing (data : List UInt32) : List UInt32 := [0, 0] ++ data ++ [0, 0]

/-- A bench on which transactions of two data statements are drawn over two tables. -/
def generator (words : List UInt32) : Bench where
  settings :=
    { minSize := .integer 2
      maxSize := .integer 2
      rollbackProbability := .integer 0
      isolationLevel := .null
      disabled := [.selectForUpdate, .delete, .update] }
  randomness := ⟨.integer 0, ⟨words, ⟨#[], 0⟩⟩, [], [], []⟩
  schema :=
    ⟨[⟨"t0", [{ name := "c0", dataType := .boolean }], none⟩,
      ⟨"t1", [{ name := "c0", dataType := .boolean }], none⟩]⟩

/-- Two transactions are generated. -/
def pair : Task Batch := do
  let first ← Generation.transaction
  let second ← Generation.transaction
  return [first, second]

/-- Both are generated over the tables that are known where statements are drawn. -/
theorem generatedOver_of_pair {start after : Bench} (grammar : start.synthesizer = .grammar)
    {batch : Batch} (returned : pair.Returns start batch after) (distinct : batch.ids.Nodup) :
    batch.GeneratedOver start.schema := by
  simp only [pair, Task.returns_bind, Task.returns_pure] at returned
  obtain ⟨first, middle, one, second, last, two, rfl, rfl⟩ := returned
  have still : middle.Draws (· = start.schema) := by
    have kept := (Generation.givesOver_formed start.schema start ⟨grammar, rfl⟩).1
    rwa [show Generation.transaction start = _ from one] at kept
  refine ⟨fun transaction member => ?_, distinct⟩
  rcases List.mem_pair.1 member with rfl | rfl
  · exact ⟨_, _, grammar, rfl, one⟩
  · exact ⟨_, _, still.grammar, still.tables, two⟩

/-- So they make a generated batch. -/
theorem generated_of_pair {start after : Bench} (grammar : start.synthesizer = .grammar)
    {batch : Batch} (returned : pair.Returns start batch after) (distinct : batch.ids.Nodup) :
    batch.Generated := (generatedOver_of_pair grammar returned distinct).generated

/-- So are those that are drawn over two tables. -/
theorem pair_generated {words : List UInt32} {batch : Batch} {after : Bench}
    (returned : pair.Returns (generator words) batch after) (distinct : batch.ids.Nodup) :
    batch.Generated := generated_of_pair rfl returned distinct

/-- A bench for the runs of two transactions, which are scheduled as given. -/
def scheduled (rules : List Rule) (schedule : List Int) : Bench :=
  { bench rules with schedule := some (schedule.map .integer) }

/-- The bench suits two transactions that have its two connections. -/
theorem scheduled_suits {rules : List Rule} (only : ∀ rule ∈ rules, rule.OnlyDelays)
    (schedule : List Int) {batch : Batch}
    (connections : batch.map (·.session.connection) = [some 1, some 2]) :
    (scheduled rules schedule).Suits batch := by
  obtain ⟨one, two, rfl⟩ : ∃ one two, batch = [one, two] :=
    List.length_eq_two.1 (by simpa using congrArg List.length connections)
  simp only [List.map_cons, List.map_nil, List.cons.injEq, and_true] at connections
  obtain ⟨first, second⟩ := connections
  refine ⟨only, nofun, ⟨nofun, nofun⟩, ?_, ?_, nofun, ?_⟩
  · intro query member
    rcases List.mem_pair.1 member with rfl | rfl
    · exact ⟨_, rfl, .inl ⟨"t0", by decide +kernel⟩⟩
    · exact ⟨_, rfl, .inl ⟨"t1", by decide +kernel⟩⟩
  · intro transaction member
    rcases List.mem_pair.1 member with rfl | rfl
    · exact ⟨1, {}, first, rfl, rfl⟩
    · exact ⟨2, {}, second, rfl, rfl⟩
  · intro left member right other same
    rcases List.mem_pair.1 member with rfl | rfl <;> rcases List.mem_pair.1 other with rfl | rfl
    · rfl
    · simp [first, second] at same
    · simp [first, second] at same
    · rfl

/-- A rule that delays texts which begin in a given way. -/
def delaying (front : String) (delay : Int) : Rule :=
  { start := some (.text front), delay := .integer delay }

/-- That is all it does. -/
theorem delaying_onlyDelays (front : String) (delay : Int) : (delaying front delay).OnlyDelays where
  answer := rfl
  delay := ⟨_, rfl⟩
  notices := rfl
  concerns := fun _ text => by
    cases begins : Text.startsWith text front <;>
      exact ⟨_, by simp [Rule.concerns, Rule.fits, delaying, Value.startsWith, begins]; rfl⟩
  due := fun seen => by
    obtain ⟨below, compared⟩ : ∃ below, (Value.integer 0).isBelow (.integer seen) = .ok below :=
      ⟨_, rfl⟩
    cases below <;> exact ⟨_, by simp [Rule.isDue, delaying, compared]; rfl⟩

/-- The last insertion takes a second. -/
def late : List Rule := [delaying "INSERT INTO t1" 1]

/-- The words for a transaction that reads both tables and one that adds rows to them. -/
def readerAndWriter : List UInt32 :=
  drawing (reading 0 ++ reading secondOne) ++ drawing (adding 0 ++ adding secondOne)

/-- The pair is generated, and then run on another bench. -/
def tested (target : Bench) : Task (Batch × Trace) := do
  let batch ← pair
  set (target.noting batch)
  let test ← Run.run batch .interleaved none .null
  return (batch, test)

/-- What can be seen of a batch. -/
structure Shape where
  /-- The numbers of its transactions. -/
  ids : List Value
  /-- Their connections. -/
  connections : List (Option Nat)
  /-- The kinds of their data statements, with what the engine does on receiving them. -/
  data : List (List (StatementKind × Command))
  deriving DecidableEq

/-- The data statements of a transaction as they can be seen. -/
def dataOf (transaction : OpenTransaction) : List (StatementKind × Command) :=
  transaction.data.map fun statement => (statement.kind, statement.command)

/-- What can be seen of every data statement is true of each. -/
theorem of_dataOf (good : StatementKind × Command → Prop) {transaction : OpenTransaction}
    {seen : List (StatementKind × Command)} (same : dataOf transaction = seen)
    (all : ∀ entry ∈ seen, good entry) :
    ∀ statement ∈ transaction.data, good (statement.kind, statement.command) := fun _ inside =>
  all _ (same ▸ List.mem_map_of_mem inside)

/-- The shape of a batch. -/
def shapeOf (batch : Batch) : Shape where
  ids := batch.ids
  connections := batch.map (·.session.connection)
  data := batch.map dataOf

/-- A transaction that reads two tables and one that adds a row to each of them. -/
def readerAndWriterShape : Shape where
  ids := [.integer 1, .integer 2]
  connections := [some 1, some 2]
  data :=
    [[(.select, .read "t0"), (.select, .read "t1")],
      [(.insert, .write "t0"), (.insert, .write "t1")]]

/-- The reader begins before the first insertion is committed, and ends before the second one, which is
blocked. -/
theorem tested_readerAndWriter :
    ((tested (scheduled late [1, 2, 2, 1, 2]) (generator readerAndWriter)).1.toOption.map fun made =>
        (shapeOf made.1, made.2.results.map fun result =>
          (result.statement.transaction, result.statement.index, result.isBlocked))) =
      some (readerAndWriterShape,
        [(.integer 1, .integer 0, false), (.integer 2, .integer 0, false),
          (.integer 2, .integer 1, false), (.integer 1, .integer 1, false),
          (.integer 1, .integer 2, false), (.integer 1, .integer 3, false),
          (.integer 2, .integer 2, true), (.integer 2, .integer 3, false)]) := by
  decide +kernel

end Sample

/-- A reader between the insertions of a writer raises no alarm. -/
theorem checkBatch_consistent_late :
    ∃ batch after, Sample.shapeOf batch = Sample.readerAndWriterShape ∧
      (Check.checkBatch batch).Returns (Sample.scheduled Sample.late [1, 2, 2, 1, 2]) .consistent
        after := by
  obtain ⟨⟨batch, test⟩, last, returned, seen⟩ := Task.returns_of_map Sample.tested_readerAndWriter
  obtain ⟨shape, _⟩ := Prod.mk.inj seen
  simp only [Sample.tested, Task.returns_bind, Task.returns_set, Task.returns_pure,
    Prod.mk.injEq] at returned
  obtain ⟨_, _, made, _, _, rfl, _, _, tested, ⟨rfl, rfl⟩, rfl⟩ := returned
  obtain ⟨ids, connections, data⟩ := Sample.Shape.mk.inj shape
  have generated : batch.Generated := Sample.pair_generated made (by rw [ids]; decide)
  have two : batch.length = 2 := by simpa [Batch.ids] using congrArg List.length ids
  have divided : ∀ transaction ∈ batch, transaction.OneSided := by
    intro transaction member
    have listed : Sample.dataOf transaction ∈ batch.map Sample.dataOf := List.mem_map_of_mem member
    rw [data] at listed
    rcases List.mem_pair.1 listed with reads | writes
    · exact .inl (Sample.of_dataOf (·.1.returnsRows = true) reads (by decide))
    · exact .inr (Sample.of_dataOf (·.1.returnsRows = false) writes (by decide))
  have suits : (Sample.scheduled Sample.late [1, 2, 2, 1, 2]).Suits batch := by
    refine Sample.scheduled_suits (fun rule member => ?_) _ connections
    rw [List.mem_singleton.1 member]
    exact Sample.delaying_onlyDelays _ _
  obtain ⟨after, checked⟩ := checkBatch_consistent generated divided suits
    (show Order.limitOf (.integer 24) batch.length = .ok 24 from rfl) (by rw [two]; decide) tested
  exact ⟨batch, after, shape, checked⟩

end SerialCheck

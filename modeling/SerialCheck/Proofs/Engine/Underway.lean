import SerialCheck.Proofs.Engine.Stage
import SerialCheck.Proofs.Setup.Opening

/-!
# A run underway

While a run is underway its bench differs from the one that it began on only by the turns that have
been taken (`Underway`). When it is over, the contents of the tables are those of the base with what has
been committed, and the database can be restored to the same base for the next run (`Ready`).
-/
namespace SerialCheck

/-- A batch of numbered transactions that the engine understands, each over a connection of its
own. -/
structure Batch.Cast (batch : Batch) (admin : Session) : Prop where
  /-- The transactions are numbered. -/
  numbered : batch.Numbered
  /-- They do not share their connections. -/
  apart : batch.Apart admin
  /-- Their statements mean what their kinds say. -/
  spoken : ∀ transaction ∈ batch, transaction.Spoken

/-- The bench of a run that began on the first bench with the tables of the base, after the given
turns. -/
structure Underway (start : Bench) (batch : Batch) (admin : Session) (base : Database)
    (turns : List Turn) (active : OpenTransaction → Prop) (bench : Bench) : Prop where
  /-- The server has what the turns have made of the base. -/
  stage : Stage batch admin base turns active bench.server
  /-- All else that answers depend on is as it was. -/
  scene : bench.scene = { start.scene with server := bench.server }

namespace Underway

variable {start bench other : Bench} {batch : Batch} {admin : Session} {base : Database}
  {turns : List Turn} {active busy : OpenTransaction → Prop} {transaction : OpenTransaction}

/-- Only the scene matters. -/
theorem of_scene (underway : Underway start batch admin base turns active bench)
    (same : other.scene = bench.scene) : Underway start batch admin base turns active other where
  stage := by
    have server : other.server = bench.server := congrArg Scene.server same
    rw [server]
    exact underway.stage
  scene := by
    have server : other.server = bench.server := congrArg Scene.server same
    rw [same, underway.scene, server]

theorem mono (underway : Underway start batch admin base turns active bench)
    (fewer : ∀ transaction ∈ batch, busy transaction → active transaction) :
    Underway start batch admin base turns busy bench :=
  ⟨underway.stage.mono fewer, underway.scene⟩

/-- The next statement of a transaction is answered as the turns so far say. -/
theorem send (underway : Underway start batch admin base turns active bench)
    (cast : batch.Cast admin) (member : transaction ∈ batch) {statement : Statement} {place : Nat}
    (next : transaction.statements[place]? = some statement)
    (before : statementsOf turns transaction.id = transaction.statements.take place)
    (working : 0 < place → active transaction) :
    (bench.scene.reply transaction.session statement.text).result =
        .ok (.ofAnswer (answerAt base turns transaction.id statement.command)) ∧
      Underway start batch admin base (turns ++ [⟨transaction, statement⟩])
        (fun other => if other.id = transaction.id then place + 1 < transaction.size
          else active other) (bench.afterSending transaction.session statement.text) := by
  obtain ⟨delay, record, after, executed, stage⟩ :=
    underway.stage.statement cast.numbered cast.apart member (cast.spoken transaction member) next
      before working
  have reply : bench.scene.reply transaction.session statement.text =
      ⟨delay, .ok (.ofAnswer (answerAt base turns transaction.id statement.command)), record⟩ :=
    congrArg Prod.fst executed
  have server : (bench.afterSending transaction.session statement.text).server = after :=
    congrArg Prod.snd executed
  refine ⟨by rw [reply], ⟨by rw [server]; exact stage, ?_⟩⟩
  rw [Bench.afterSending_scene, underway.scene]
  rfl

/-- A rollback makes a transaction inactive. -/
theorem rollback (underway : Underway start batch admin base turns active bench)
    (cast : batch.Cast admin) (member : transaction ∈ batch) :
    (bench.scene.reply transaction.session (.text Bench.rollbackText)).result = .ok {} ∧
      Underway start batch admin base turns (fun other => other ≠ transaction ∧ active other)
        (bench.afterSending transaction.session (.text Bench.rollbackText)) := by
  obtain ⟨delay, record, after, executed, stage⟩ := underway.stage.rollback cast.apart member
  have reply : bench.scene.reply transaction.session (.text Bench.rollbackText) =
      ⟨delay, .ok {}, record⟩ := congrArg Prod.fst executed
  have server : (bench.afterSending transaction.session (.text Bench.rollbackText)).server =
      after := congrArg Prod.snd executed
  refine ⟨by rw [reply], ⟨by rw [server]; exact stage, ?_⟩⟩
  rw [Bench.afterSending_scene, underway.scene]
  rfl

/-- The session for setup statements can be used in the middle of a run. -/
theorem administered (underway : Underway start batch admin base turns active bench)
    (known : start.admin = some admin) :
    bench.Administered admin (base.adding (committed base turns)) where
  session := (congrArg Scene.admin underway.scene).trans known
  calm := underway.stage.calm
  database := underway.stage.database
  idle := underway.stage.admin

end Underway

/-- The contents of the tables with the given names. -/
def Database.contents (database : Database) (names : List String) : Contents :=
  names.map fun name => (name, some ((database.table? name).elim [] StoredTable.rows))

namespace Bench.Administered

open Bench

variable {bench : Bench} {admin : Session} {database : Database}

/-- The contents of known tables with plain names are read. -/
theorem contentsOf_returns {names : List String} (ready : bench.Administered admin database)
    (plain : ∀ name ∈ names, IsPlainName name ∧ database.Knows name) :
    ∃ after, (contentsOf names).Returns bench (database.contents names) after ∧
      after.Administered admin database ∧ bench.Spares after admin := by
  induction names generalizing bench with
  | nil => exact ⟨bench, Task.returns_pure.2 ⟨rfl, rfl⟩, ready, .refl bench admin⟩
  | cons name rest hypothesis =>
    obtain ⟨simple, knows⟩ := plain name List.mem_cons_self
    obtain ⟨table, found⟩ := Option.isSome_iff_exists.1 knows
    have answered : Engine.execute ⟨database, none⟩ (readText name) =
        (.ok (some table.rows), ⟨database, none⟩) := by
      rw [Engine.execute, Command.ofText_readText simple]
      show Engine.read ⟨database, none⟩ name = _
      rw [Engine.read, found]
    obtain ⟨_, still, spared⟩ := ready.send answered
    obtain ⟨after, returned, ends, spares⟩ :=
      hypothesis still fun other member => plain other (List.mem_cons_of_mem _ member)
    refine ⟨after, ?_, ends, spared.trans spares⟩
    rw [contentsOf, ready.setup_returns answered]
    simp only [Outcome.ofAnswer, Task.returns_bind, Task.returns_pure]
    refine ⟨_, after, returned, ?_, rfl⟩
    rw [Database.contents, List.map_cons, found]
    rfl

end Bench.Administered

end SerialCheck

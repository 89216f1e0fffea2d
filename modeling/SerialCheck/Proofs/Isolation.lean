import SerialCheck.Proofs.Isolation.Replays
import SerialCheck.Proofs.Isolation.Reset
import SerialCheck.Proofs.Preserved
import SerialCheck.Proofs.WriteSkew

/-!
# Runs do not contaminate each other

On a server with stateless rules a serial run ends as if it were the first one, whatever has run before it
(`Run.run_serialized_eq`). Earlier runs may leave rows, open transactions and notices. The rows
and tables are erased when the database is reset, an open transaction by the next `BEGIN` on its session, and
old notices are never collected.
-/
namespace SerialCheck

namespace Scene

variable {admin session : Session} {first second : Scene} {text : String}

/-- The session for setup statements is idle, and nothing has changed but what runs may leave behind: rows,
open transactions on other sessions, and notices. -/
structure Kept (admin : Session) (first second : Scene) : Prop where
  /-- The session for setup statements is idle. -/
  managed : second.Managed admin
  /-- Sessions, rules and setup statements are as before. -/
  stays : first.Stays second
  /-- The tables have the same names and columns. -/
  outlines : first.server.database.Outlines second.server.database

theorem Kept.refl {scene : Scene} (managed : scene.Managed admin) : Kept admin scene scene :=
  ⟨managed, .refl scene, rfl, rfl⟩

/-- A text that neither creates nor drops a table leaves the outlines of the database. -/
theorem outlines_send {scene : Scene} (steady : scene.server.Steady) {number : Nat}
    {connection : Connection} (uses : session.Uses scene.server number connection)
    (keeps : (Command.ofText text).KeepsTables) :
    scene.server.database.Outlines (scene.send session (.text text)).server.database := by
  have acted : scene.server.database.Outlines
      (scene.server.engineAfter connection text).2.database := by
    rw [Server.engineAfter]
    exact Engine.execute_outlines ⟨scene.server.database, connection.work⟩ keeps
  rcases (send_stays steady uses text).2 with same | acts
  · rw [same]
    exact ⟨rfl, rfl⟩
  · rw [acts]
    exact acted

/-- A text of a transaction leaves rows, an open transaction and notices. -/
theorem Kept.send (kept : Kept admin first second) (steady : first.server.Steady)
    (opened : session.IsOpen first.server) (apart : session.connection ≠ admin.connection)
    (keeps : (Command.ofText text).KeepsTables) :
    Kept admin first (second.send session (.text text)) := by
  obtain ⟨number, connection, uses⟩ := kept.stays.sessions session opened
  have still := steady.of_rules kept.stays.rules
  obtain ⟨_, _, _, _, replaced⟩ := send_steady still uses text
  exact ⟨kept.managed.send apart uses replaced,
    kept.stays.trans (send_stays still uses text).1,
    kept.outlines.trans (outlines_send still uses keeps)⟩

/-- A text over the session for setup statements that reads something leaves notices at most. -/
theorem Kept.read (kept : Kept admin first second) (steady : first.server.Steady)
    (opens : Command.ofText text ≠ .begin) (keeps : (Command.ofText text).KeepsTables) :
    Kept admin first (second.send admin (.text text)) := by
  obtain ⟨number, connection, uses, _⟩ := kept.managed.idle
  have still := steady.of_rules kept.stays.rules
  obtain ⟨managed, stays, _⟩ := kept.managed.send_idle still opens
  exact ⟨managed, kept.stays.trans stays, kept.outlines.trans (outlines_send still uses keeps)⟩

end Scene

namespace Run

open SerialCheck.Task

variable {admin : Session} {batch : Batch} {start bench after : Bench}

/-- The texts of generated transactions, over open sessions of their own, preserve what is kept. -/
theorem preserves_kept (steady : start.server.Steady)
    (generated : ∀ transaction ∈ batch, transaction.Generated)
    (sessions : ∀ transaction ∈ batch, transaction.session.IsOpen start.server)
    (apart : ∀ transaction ∈ batch, transaction.session.connection ≠ admin.connection) :
    batch.Preserves (Scene.Kept admin start.scene) where
  statement := by
    intro scene kept transaction member statement inside
    have spoken := (generated transaction member).numbered_spoken.2
    obtain ⟨text, said⟩ := spoken.text statement inside
    have same : statement.command = .ofText text := by rw [Statement.command, said]
    rw [said]
    exact kept.send steady (sessions transaction member) (apart transaction member)
      (same ▸ spoken.keepsTables inside)
  rollback := by
    intro scene kept transaction member
    refine kept.send steady (sessions transaction member) (apart transaction member) ?_
    rw [Bench.rollbackText, Command.ofText_rollback]
    exact Command.keepsTables_rollback

/-- Reading the contents of tables leaves what is kept. -/
theorem contentsOf_kept {names : List String} {contents : Contents}
    (steady : start.server.Steady) (kept : Scene.Kept admin start.scene bench.scene)
    (returned : (Bench.contentsOf names).Returns bench contents after) :
    Scene.Kept admin start.scene after.scene := by
  induction names generalizing bench contents with
  | nil =>
    obtain ⟨_, rfl⟩ := returns_pure.1 returned
    exact kept
  | cons name names hypothesis =>
    rw [Bench.contentsOf, Bench.setup_returns_iff (Bench.adminSession_apply kept.managed)] at returned
    obtain ⟨outcome, _, rest⟩ := returned
    obtain ⟨table, reads⟩ := Bench.exists_read_readText name
    have sent : Scene.Kept admin start.scene
        (bench.afterSending admin (.text (Bench.readText name))).scene := by
      refine kept.read steady ?_ ?_
      · simp [reads]
      · rw [reads]
        exact Command.keepsTables_read table
    split at rest
    · exact (returns_throw.1 rest).elim
    · obtain ⟨others, between, further, last⟩ := returns_bind.1 rest
      obtain ⟨_, rfl⟩ := returns_pure.1 last
      exact hypothesis sent further

end Run

/-- The bench has open sessions for a batch of generated transactions. -/
structure Bench.Hosts (bench : Bench) (batch : Batch) : Prop where
  /-- The transactions are generated. -/
  generated : batch.Generated
  /-- Their sessions are open. -/
  sessions : ∀ transaction ∈ batch, transaction.session.IsOpen bench.server
  /-- They are not the one for setup statements. -/
  keeps : ∀ transaction ∈ batch, bench.KeepsFrom transaction.session

/-- From the first bench to the second one lead runs, one after the other, of batches that the first one
hosts. All of them have returned. -/
inductive Bench.RunsTo (bench : Bench) : Bench → Prop where
  /-- Nothing has run. -/
  | none : RunsTo bench bench
  /-- One more batch has run. -/
  | run {between later : Bench} {batch : Batch} {strategy : Strategy} {reference : Option Trace}
      {order : Value} {trace : Trace} (earlier : RunsTo bench between) (hosts : bench.Hosts batch)
      (returned : (Run.run batch strategy reference order).Returns between trace later) :
      RunsTo bench later

/-- The openings of the transactions are left to the engine. -/
def Bench.LeavesOpenings (bench : Bench) (batch : Batch) : Prop :=
  ∀ transaction ∈ batch, ∀ text, transaction.opening.text = .text text → bench.server.Leaves text

namespace Bench

open SerialCheck.Task

variable {bench between later start empty after : Bench} {admin : Session} {batch : Batch}
  {reference : Option Trace} {order : Value}

/-- After a first run, everything but what runs may leave behind is as the first run found it. -/
theorem RunsTo.kept (resettable : bench.Resettable) (runs : bench.RunsTo later) :
    later = bench ∨ ∃ admin empty start, bench.Reset admin empty start ∧
      Scene.Kept admin start.scene later.scene := by
  induction runs with
  | none => exact .inl rfl
  | run earlier hosts returned hypothesis =>
    right
    obtain ⟨begun, ran, middle, contents, prepared, _, running, reading, _⟩ :=
      Run.run_returns.1 returned
    obtain ⟨_, restored, restoring, noted⟩ := returns_bind.1 prepared
    obtain ⟨admin, empty, start, reset, kept⟩ : ∃ admin empty start,
        bench.Reset admin empty start ∧ Scene.Kept admin start.scene restored.scene := by
      rcases hypothesis with rfl | ⟨admin, empty, start, reset, kept⟩
      · obtain ⟨admin, empty, reset⟩ := resettable.reset restoring
        exact ⟨admin, empty, restored, reset, .refl reset.managed⟩
      · obtain ⟨other, again, twins, stays⟩ : ∃ other, reproduce.Returns _ () other ∧
            Scene.Twins admin [] start.scene other.scene ∧ _ :=
          reset.again resettable kept.managed kept.stays kept.outlines nofun nofun nofun
        obtain ⟨_, rfl⟩ := again.unique restoring
        exact ⟨admin, empty, start, reset, twins.two, kept.stays.trans stays,
          twins.tables.outlines⟩
    have scene : begun.scene = restored.scene := by rw [returns_log.1 noted]; rfl
    have steady := resettable.stateless.steady.of_rules reset.stays.rules
    have preserves : Batch.Preserves _ (Scene.Kept admin start.scene) :=
      Run.preserves_kept steady hosts.generated.each
        (fun transaction member => reset.stays.sessions _ (hosts.sessions transaction member))
        (fun transaction member => reset.apart _ (hosts.sessions transaction member)
          (hosts.keeps transaction member))
    have ended := Run.byStrategy_preserves hosts.generated.numbered preserves (scene ▸ kept) running
    exact ⟨admin, empty, start, reset, Run.contentsOf_kept steady ended reading⟩

end Bench

/-- From twin scenes a serial run goes in lockstep once the database has been restored. -/
theorem Run.run_serialized_congr {admin : Session} {batch : Batch} {bench later start other : Bench}
    (each : ∀ transaction ∈ batch, transaction.Generated)
    (first : Bench.reproduce.Returns bench () start)
    (second : Bench.reproduce.Returns later () other)
    (twins : Scene.Twins admin batch start.scene other.scene) (reference : Option Trace)
    (order : Value) :
    (run batch .serialized reference order later).1 =
      (run batch .serialized reference order bench).1 := by
  have serial : Task.Lockstep (Scene.Twins admin batch) (serial batch reference order)
      (Scene.Twins admin batch) :=
    (Task.lockstep_use _).bind fun order => lockstep_replayAll each _ order {}
  have noted : Task.Lockstep (Scene.Twins admin batch)
      (Task.log .debug s!"Running {batch.length} transactions ({Strategy.serialized.word})")
      (Scene.Twins admin batch) := Task.lockstep_log _ _
  unfold Task.Returns at first second
  unfold run
  rw [Task.bind_apply, Task.bind_apply, first, second]
  refine (noted.bind fun _ => ?_).ends twins
  split
  · exact Task.lockstep_throw_bind _ _
  · exact serial.bind fun trace => Bench.lockstep_snapshot.bind fun contents =>
      Task.lockstep_pure _

/-- Runs do not contaminate each other: whatever has run before, a serial run of generated transactions ends
as if it were the first one. -/
theorem Run.run_serialized_eq {bench later : Bench} {batch : Batch} (resettable : bench.Resettable)
    (runs : bench.RunsTo later) (hosts : bench.Hosts batch) (openings : bench.LeavesOpenings batch)
    (reference : Option Trace) (order : Value) :
    (run batch .serialized reference order later).1 =
      (run batch .serialized reference order bench).1 := by
  rcases runs.kept resettable with rfl | ⟨admin, empty, start, reset, kept⟩
  · rfl
  · obtain ⟨other, restored, twins, _⟩ := reset.again resettable kept.managed kept.stays
      kept.outlines hosts.sessions
      (fun transaction member => reset.apart _ (hosts.sessions transaction member)
        (hosts.keeps transaction member)) openings
    exact run_serialized_congr hosts.generated.each reset.returned restored twins reference order

namespace Sample

/-- A rule by which texts that begin in a given way fail without reaching the engine. -/
def refusing (front : String) : Rule :=
  { start := some (.text front), answer := .failure (.ok .statement) "refused" false }

/-- Such a rule is stateless. -/
theorem refusing_stateless (front : String) : (refusing front).Stateless :=
  ⟨rfl, rfl, rfl, fun _ _ same => by cases same⟩

/-- It does not concern other texts. -/
theorem refusing_leaves {front text : String} (other : Text.startsWith text front = false)
    (schedule : List Int) : (scheduled [refusing front] schedule).server.Leaves text := by
  intro rule member number
  rw [List.mem_singleton.1 member]
  simp [Rule.concerns, Rule.fits, refusing, Value.startsWith, other]
  rfl

/-- The texts that reset the database with two tables are no commits. -/
theorem not_startsWith_commit : ∀ text ∈ [schemaQuery, Bench.dropText "t0", Bench.dropText "t1"],
    Text.startsWith text "COMMIT" = false := by
  -- the query for the catalog is long, but its first character suffices
  have catalog : Text.startsWith schemaQuery "COMMIT" = false := by
    obtain ⟨rest, cut⟩ := Command.schemaQuery_eq
    simp only [Text.startsWith, cut, String.toList_ofList]
    rfl
  rw [List.forall_mem_cons]
  exact ⟨catalog, by decide +kernel⟩

/-- The database of the bench for two transactions can be reset if the rules allow it. -/
theorem scheduled_resettable {rules : List Rule} {schedule : List Int}
    (stateless : ∀ rule ∈ rules, rule.Stateless)
    (leaves : ∀ text ∈ [schemaQuery, Bench.dropText "t0", Bench.dropText "t1"],
      (scheduled rules schedule).server.Leaves text) :
    (scheduled rules schedule).Resettable where
  stateless := stateless
  idle := nofun
  orderly := ⟨nofun, nofun⟩
  setup := by
    intro query member
    rcases List.mem_pair.1 member with rfl | rfl
    · exact ⟨_, rfl, .inl ⟨"t0", by decide +kernel⟩⟩
    · exact ⟨_, rfl, .inl ⟨"t1", by decide +kernel⟩⟩
  catalog := leaves _ (by simp)
  drops := by
    rintro name (⟨table, member, _⟩ | ⟨query, member, text, said, creates⟩)
    · cases member
    · rcases List.mem_pair.1 member with rfl | rfl
      · cases said
        rw [show Command.ofText "CREATE TABLE t0" = .create "t0" by decide +kernel] at creates
        cases creates
        exact leaves _ (by simp)
      · cases said
        rw [show Command.ofText "CREATE TABLE t1" = .create "t1" by decide +kernel] at creates
        cases creates
        exact leaves _ (by simp)

/-- It hosts generated transactions that have its two connections. -/
theorem scheduled_hosts {rules : List Rule} {schedule : List Int} {batch : Batch}
    (generated : batch.Generated)
    (connections : batch.map (·.session.connection) = [some 1, some 2]) :
    (scheduled rules schedule).Hosts batch where
  generated := generated
  sessions := by
    intro transaction member
    have listed : transaction.session.connection ∈ [some 1, some 2] :=
      connections ▸ List.mem_map_of_mem member
    rcases List.mem_pair.1 listed with first | second
    · exact ⟨1, {}, first, rfl, rfl⟩
    · exact ⟨2, {}, second, rfl, rfl⟩
  keeps := nofun

/-- The pair is generated. Then it is run on another bench, first interleaved and then serially; the bench
is looked at in between. -/
def ranTwice (target : Bench) : Task (Batch × Bench × Trace) := do
  let batch ← pair
  set target
  let _ ← Run.run batch .interleaved none .null
  let between ← get
  let serial ← Run.run batch .serialized none (.array batch.ids)
  return (batch, between, serial)

/-- If no transaction can be committed, the first run leaves two of them open. -/
theorem ranTwice_refusing :
    ((ranTwice (scheduled [refusing "COMMIT"] []) (generator skewed)).1.toOption.map fun made =>
        (shapeOf made.1, made.1.map (·.opening.text),
          made.2.1.server.connections.map (·.work.isSome))) =
      some (skewedShape, [.text "BEGIN", .text "BEGIN"], [true, true, false]) := by
  decide +kernel

end Sample

/-- A run that leaves transactions open does not show in the serial run after it. -/
theorem Run.run_serialized_uncommitted :
    ∃ batch test between serial, Sample.shapeOf batch = Sample.skewedShape ∧
      (run batch .interleaved none .null).Returns
        (Sample.scheduled [Sample.refusing "COMMIT"] []) test between ∧
      between.server.connections.map (·.work.isSome) = [true, true, false] ∧
      (run batch .serialized none (.array batch.ids) between).1 = .ok serial ∧
      (run batch .serialized none (.array batch.ids)
        (Sample.scheduled [Sample.refusing "COMMIT"] [])).1 = .ok serial := by
  obtain ⟨⟨batch, between, serial⟩, last, returned, seen⟩ :=
    Task.returns_of_map Sample.ranTwice_refusing
  simp only [Prod.mk.injEq] at seen
  obtain ⟨shape, openings, left⟩ := seen
  simp only [Sample.ranTwice, Task.returns_bind, Task.returns_set, Task.returns_get,
    Task.returns_pure, Prod.mk.injEq] at returned
  obtain ⟨_, _, made, _, _, rfl, test, _, tested, _, _, ⟨rfl, rfl⟩, _, _, replayed,
    ⟨rfl, rfl, rfl⟩, rfl⟩ := returned
  obtain ⟨ids, connections, _⟩ := Sample.Shape.mk.inj shape
  have generated : batch.Generated := Sample.pair_generated made (by rw [ids]; decide)
  have hosts : (Sample.scheduled [Sample.refusing "COMMIT"] []).Hosts batch :=
    Sample.scheduled_hosts generated connections
  have resettable : (Sample.scheduled [Sample.refusing "COMMIT"] []).Resettable := by
    refine Sample.scheduled_resettable (fun rule member => ?_) fun text member =>
      Sample.refusing_leaves (Sample.not_startsWith_commit text member) _
    rw [List.mem_singleton.1 member]
    exact Sample.refusing_stateless _
  have opens : (Sample.scheduled [Sample.refusing "COMMIT"] []).LeavesOpenings batch := by
    intro transaction member text said
    have listed : transaction.opening.text ∈ [.text "BEGIN", .text "BEGIN"] :=
      openings ▸ List.mem_map_of_mem (f := fun other => other.opening.text) member
    rw [said] at listed
    have begins : text = "BEGIN" := by simpa using listed
    rw [begins]
    exact Sample.refusing_leaves (by decide +kernel) _
  have same := run_serialized_eq resettable (.run .none hosts tested) hosts opens none
    (.array batch.ids)
  have ended : (run batch .serialized none (.array batch.ids) between).1 = .ok serial :=
    congrArg Prod.fst replayed
  exact ⟨batch, test, between, serial, shape, tested, left, ended, same.symm.trans ended⟩

end SerialCheck

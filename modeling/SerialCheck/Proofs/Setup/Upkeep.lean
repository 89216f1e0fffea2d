import SerialCheck.Proofs.Fails
import SerialCheck.Proofs.Interleaved.Course

/-!
# What restoring the database keeps

`Bench.Upkeep` lists what single setup steps keep of a bench and in which faults they may end. From that
follows the same of everything that is made of them: reading the catalog, restoring the database
(`Upkeep.reproduce`) and reading the contents of the tables (`Upkeep.snapshot`).
-/
namespace SerialCheck

namespace Bench

open SerialCheck.Task

/-- The rows of an outcome are not read as a catalog, or only with faults that are admitted. -/
structure Legible (admits : Fault → Prop) (outcome : Outcome) : Prop where
  /-- The rows describe columns. -/
  rows : ∀ cause, schemaOf (outcome.rows.getD []) = .error cause → admits (.misuse cause)
  /-- The names of the tables have an order. -/
  order : ∀ schema cause, schemaOf (outcome.rows.getD []) = .ok schema →
    schema.disorder? = some cause → admits (.misuse cause)

/-- What holds of a bench while setup texts are sent, and the faults that may end that. -/
structure Upkeep (holds : Bench → Prop) (admits : Fault → Prop) (fits : Value → Prop) : Prop where
  /-- A fitting text that is sent keeps it, and may have a fault. -/
  sends : ∀ bench session text, holds bench → fits text → holds (bench.afterSending session text) ∧
    ∀ fault, (bench.scene.reply session text).result = .error fault → admits fault
  /-- The catalog is legible. -/
  reads : ∀ bench session outcome, holds bench →
    (bench.scene.reply session (.text schemaQuery)).result = .ok outcome → Legible admits outcome
  /-- The address of the database is a text. -/
  address : ∀ bench cause, holds bench → bench.settings.connection.suffix = .error cause →
    admits (.misuse cause)
  /-- A session that is opened keeps it, and may have a fault. -/
  connects : ∀ bench address label, holds bench →
    let (result, server) := Session.connect address label bench.settings.lockTimeout bench.server
    holds { bench with server } ∧ ∀ fault, result = .error fault → admits fault
  /-- Every text fits. -/
  written : ∀ text, fits (.text text)
  /-- So do the setup statements. -/
  logged : ∀ bench, holds bench → ∀ query ∈ bench.setupLog, fits query.text
  /-- The known tables do not matter. -/
  schema : ∀ bench schema, holds bench → holds { bench with schema }
  /-- Nor does the session for setup statements. -/
  admin : ∀ bench admin, holds bench → holds { bench with admin }
  /-- Nor do records. -/
  journal : ∀ bench journal, holds bench → holds { bench with journal }
  /-- Faults of sessions are admitted. -/
  session : ∀ cause, admits (.session cause)

/-- A text whose outcome is awaited has a fault if its reply has one. -/
theorem execute_fails {bench after : Bench} {session : Session} {text : Value} {fault : Fault} :
    (execute session text).Fails bench fault after ↔
      (bench.scene.reply session text).result = .error fault ∧
        after = bench.afterSending session text := by
  have unsent : ∀ thrown between, ¬ (send session text).Fails bench thrown between :=
    fun _ _ failed => failed.not_returns (send_returns.2 ⟨rfl, rfl⟩)
  simp only [execute, outcomeOf, fails_bind, unsent, false_or, send_returns, fails_release]
  constructor
  · rintro ⟨reply, between, ⟨rfl, rfl⟩, failed⟩
    exact failed
  · intro failed
    exact ⟨_, _, ⟨rfl, rfl⟩, failed⟩

namespace Upkeep

variable {holds : Bench → Prop} {admits : Fault → Prop} {fits : Value → Prop} {α : Type}

/-- A text is sent and its outcome awaited. -/
theorem execute (upkeep : Upkeep holds admits fits) (session : Session) {text : Value}
    (fit : fits text) : Ensures holds admits (execute session text) fun outcome bench =>
      holds bench ∧ ∃ before, holds before ∧ (before.scene.reply session text).result = .ok outcome where
  returns := by
    intro bench outcome after held returned
    obtain ⟨answered, rfl⟩ := execute_returns.1 returned
    exact ⟨(upkeep.sends bench session text held fit).1, bench, held, answered⟩
  fails := by
    intro bench fault after held failed
    exact (upkeep.sends bench session text held fit).2 fault (execute_fails.1 failed).1

/-- A record is added. -/
theorem log (upkeep : Upkeep holds admits fits) (level : Level) (text : String) :
    Ensures holds admits (Task.log level text) fun _ => holds :=
  ensures_modify fun bench held => upkeep.journal bench _ held

/-- A session is opened. -/
theorem connect (upkeep : Upkeep holds admits fits) (label : String) :
    Ensures holds admits (connect label) fun _ => holds := by
  refine ensures_get_bind fun bench held => ?_
  refine Ensures.through (fun _ => (· = bench)) (ensures_use (fun _ _ same _ => same)
    fun _ cause _ => upkeep.address bench cause held) fun address => ?_
  have connected := upkeep.connects bench address label held
  obtain ⟨result, server, opened⟩ : ∃ result server,
      Session.connect address label bench.settings.lockTimeout bench.server = (result, server) :=
    ⟨_, _, rfl⟩
  rw [opened] at connected ⊢
  refine Ensures.through (fun _ => holds) ?_ fun _ => ?_
  · exact ensures_modify fun _ _ => connected.1
  · refine (ensures_release (fun _ _ held _ => held) fun _ fault _ => connected.2 fault).bind
      fun session => ?_
    exact (upkeep.log _ _).bind fun _ => ensures_pure fun _ held => held

/-- There is a session for setup statements, or one is opened. -/
theorem adminSession (upkeep : Upkeep holds admits fits) :
    Ensures holds admits adminSession fun _ => holds := by
  have opened : Ensures holds admits adminSession.openAdmin fun _ => holds := by
    refine (upkeep.connect _).bind fun session => Ensures.through (fun _ => holds) ?_ fun _ => ?_
    · exact ensures_modify fun bench held => upkeep.admin bench (some session) held
    · exact ensures_pure fun _ held => held
  refine ensures_get_bind fun bench held => ?_
  have here : ∀ other, other = bench → holds other := fun _ same => same ▸ held
  split
  · split
    · exact opened.mono here fun _ _ kept => kept
    · exact ensures_pure here
  · exact opened.mono here fun _ _ kept => kept

/-- A text is sent over the session for setup statements before the next task. -/
theorem setup (upkeep : Upkeep holds admits fits) {text : Value} (fit : fits text)
    {next : Outcome → Task α} {later : α → Bench → Prop}
    (further : ∀ outcome, Ensures holds admits (next outcome) later) :
    Ensures holds admits (Bench.adminSession >>= fun session => Bench.execute session text >>= next)
      later :=
  upkeep.adminSession.bind fun session => (upkeep.execute session fit).bind fun outcome =>
    (further outcome).mono (fun _ held => held.1) fun _ _ kept => kept

/-- Reading the catalog keeps what holds. -/
theorem updateSchema (upkeep : Upkeep holds admits fits) :
    Ensures holds admits updateSchema fun _ => holds := by
  unfold Bench.updateSchema
  refine upkeep.adminSession.bind fun session => Ensures.through
    (fun outcome bench => holds bench ∧ Legible admits outcome) ?_ fun outcome => ?_
  · refine (upkeep.execute session (upkeep.written _)).mono (fun _ held => held) ?_
    rintro outcome bench ⟨held, before, fine, answered⟩
    exact ⟨held, upkeep.reads before session outcome fine answered⟩
  split
  · exact ensures_throw_bind (upkeep.session _) _
  · refine Ensures.through (fun schema bench => holds bench ∧
      ∀ cause, schema.disorder? = some cause → admits (.misuse cause)) (ensures_use ?_ ?_) fun schema => ?_
    · rintro bench schema ⟨held, legible⟩ read
      exact ⟨held, fun cause => legible.order schema cause read⟩
    · rintro bench cause ⟨_, legible⟩ unread
      exact legible.rows cause unread
    · refine Ensures.through (fun _ bench => holds bench ∧
        ∀ cause, schema.disorder? = some cause → admits (.misuse cause)) (ensures_modify ?_) fun _ => ?_
      · rintro bench ⟨held, order⟩
        exact ⟨upkeep.schema bench schema held, order⟩
      · cases disorder : schema.disorder? with
        | none => exact (upkeep.log _ _).mono (fun _ held => held.1) fun _ _ held => held
        | some cause =>
          refine Ensures.of_holds fun bench held => ?_
          exact ensures_throw_bind (held.2 cause rfl) _

/-- So does dropping tables. -/
theorem dropEach (upkeep : Upkeep holds admits fits) (names : List String) :
    Ensures holds admits (dropEach names) fun _ => holds := by
  induction names with
  | nil => exact ensures_pure fun _ held => held
  | cons name names hypothesis =>
    refine upkeep.setup (upkeep.written _) fun outcome => ?_
    split
    · exact ensures_throw (upkeep.session _)
    · exact hypothesis

/-- So does dropping all of them. -/
theorem dropTables (upkeep : Upkeep holds admits fits) :
    Ensures holds admits dropTables fun _ => holds := by
  refine upkeep.updateSchema.bind fun _ => ensures_get_bind fun bench held => ?_
  refine Ensures.bind ((upkeep.dropEach _).mono (fun _ same => same ▸ held) fun _ _ kept => kept) ?_
  exact fun _ => ensures_modify fun bench held => upkeep.schema bench {} held

/-- So does replaying setup statements that fit. -/
theorem replayEach (upkeep : Upkeep holds admits fits) {queries : List Query}
    (fit : ∀ query ∈ queries, fits query.text) :
    Ensures holds admits (replayEach queries) fun _ => holds := by
  induction queries with
  | nil => exact ensures_pure fun _ held => held
  | cons query queries hypothesis =>
    refine upkeep.setup (fit query List.mem_cons_self) fun outcome => ?_
    split
    · exact ensures_throw (upkeep.session _)
    · exact hypothesis fun other member => fit other (List.mem_cons_of_mem _ member)

/-- So does restoring the database. -/
theorem reproduce (upkeep : Upkeep holds admits fits) :
    Ensures holds admits reproduce fun _ => holds := by
  refine upkeep.dropTables.bind fun _ => ensures_get_bind fun bench held => ?_
  refine Ensures.bind ((upkeep.replayEach (upkeep.logged bench held)).mono
    (fun _ same => same ▸ held) fun _ _ kept => kept) ?_
  exact fun _ => upkeep.updateSchema

/-- So does reading the contents of tables. -/
theorem contentsOf (upkeep : Upkeep holds admits fits) (names : List String) :
    Ensures holds admits (contentsOf names) fun _ => holds := by
  induction names with
  | nil => exact ensures_pure fun _ held => held
  | cons name names hypothesis =>
    refine upkeep.setup (upkeep.written _) fun outcome => ?_
    split
    · exact ensures_throw (upkeep.session _)
    · exact hypothesis.bind fun _ => ensures_pure fun _ held => held

/-- So does reading those of all known tables. -/
theorem snapshot (upkeep : Upkeep holds admits fits) :
    Ensures holds admits snapshot fun _ => holds :=
  ensures_get_bind fun _ held =>
    (upkeep.contentsOf _).mono (fun _ same => same ▸ held) fun _ _ kept => kept

/-- So does preparing a run. -/
theorem prepare (upkeep : Upkeep holds admits fits) (batch : Batch) (strategy : Strategy) :
    Ensures holds admits (Run.prepare batch strategy) fun _ => holds :=
  upkeep.reproduce.bind fun _ => upkeep.log _ _

end Upkeep

end Bench

end SerialCheck

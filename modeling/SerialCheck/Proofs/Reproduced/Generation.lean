import SerialCheck.Proofs.Reproduced.Attempts

/-!
# Generating a database

Whatever the choices are, the statements by which a database is generated create tables or add rows. So
everything that is generated is logged (`Bench.Generating.generates`).
-/
namespace SerialCheck

/-- The query creates a table or adds a row, and announces that the known tables change if it creates
one. -/
def Query.Prepares (query : Query) : Prop :=
  ∃ text, query.text = .text text ∧ IsSetup text ∧
    ∀ name, Command.ofText text = .create name → query.changesSchema = true

/-- The query of a table definition creates a table, and announces that. -/
theorem TableGenerator.prepares_finish (generator : TableGenerator) (columns : List Column)
    (definition : TableDefinition) (further : List String) :
    (generator.finish columns definition further).1.Prepares := by
  have creates : ∃ name, Command.ofText definition.render = .create name := by
    cases definition <;> unfold TableDefinition.render <;> simp only [String.append_assoc] <;>
      exact ⟨_, Command.ofText_create _⟩
  exact ⟨definition.render, rfl, .inl creates, fun _ _ => rfl⟩

/-- Whatever the choices are, the definition of a table is drawn as such. -/
theorem TableGenerator.gives_draw_prepares (generator : TableGenerator) (schema : Schema) :
    Attempt.Gives (generator.draw schema) (·.1.Prepares) := by
  refine (generator.gives_draw schema).mono ?_
  rintro _ ⟨columns, definition, further, _, rfl⟩
  exact generator.prepares_finish columns definition further

/-- An insertion adds a row. -/
theorem DataStatement.prepares_insert {statement : DataStatement} (is : statement.Is .insert) :
    statement.query.Prepares := by
  obtain ⟨text, said, name, written⟩ := statement.speaks is
  refine ⟨text, said, .inr ⟨name, written⟩, fun other created => ?_⟩
  rw [written] at created
  cases created

namespace Task

variable {α : Type} {holds : Bench → Prop}

/-- What follows a choice need only do so for good choices, if only the scene matters. -/
theorem maintains_attempt {choice : Attempt α} {good : α → Prop} (gives : choice.Gives good)
    {next : α → Task β} (scene : ∀ bench after, holds bench → after.scene = bench.scene → holds after)
    (second : ∀ value, good value → Maintains holds (next value)) :
    Maintains holds (attempt choice >>= next) := by
  intro bench result after held returned
  obtain ⟨value, between, chosen, rest⟩ := returns_bind.1 returned
  obtain ⟨outcome, drawn, choosing, given⟩ := returns_bind.1 chosen
  obtain ⟨rfl, rfl⟩ := returns_draw.1 choosing
  cases made : (choice.run bench.randomness).1 with
  | error cause =>
    rw [made] at given
    exact (returns_throw.1 given).elim
  | ok chosen =>
    rw [made] at given
    obtain ⟨rfl, rfl⟩ := returns_pure.1 given
    refine second value (gives _ value made) _ result after ?_ rest
    exact scene bench _ held rfl

end Task

namespace Bench

open SerialCheck.Task

/-- All that was set up since the database was emptied is logged, and the known tables are those of the
catalog. -/
def Generating (admin : Session) (empty bench : Bench) : Prop :=
  ∃ attempts, Logged admin empty attempts bench ∧ bench.server.database.Tells bench.schema

variable {admin : Session} {empty bench after : Bench}

theorem Generating.of_scene (generating : Generating admin empty bench)
    (same : after.scene = bench.scene) : Generating admin empty after := by
  obtain ⟨attempts, logged, tells⟩ := generating
  refine ⟨attempts, logged.of_scene same, ?_⟩
  rw [show after.server = bench.server from congrArg Scene.server same,
    show after.schema = bench.schema from congrArg Scene.schema same]
  exact tells

section

variable (steady : empty.server.Steady) (left : empty.server.Leaves schemaQuery)

include steady left

/-- A setup statement maintains it. -/
theorem maintains_runSetup {query : Query} (prepares : query.Prepares) :
    Maintains (Generating admin empty) (runSetup query) := by
  rintro bench done after ⟨attempts, logged, tells⟩ returned
  obtain ⟨text, said, sets, announced⟩ := prepares
  obtain ⟨outcome, further, known⟩ := logged.runs steady left tells said sets announced returned
  exact ⟨_, further, known⟩

/-- So does the creation of tables. -/
theorem maintains_createTables (wanted : Value) (attempts : Nat) :
    Maintains (Generating admin empty) (createTables wanted attempts) := by
  have counted : Maintains (Generating admin empty) tableCount :=
    maintains_get.bind fun _ => maintains_pure _
  induction attempts with
  | zero =>
    refine counted.bind fun count => (maintains_use _).bind fun below => ?_
    split
    · exact maintains_throw _
    · exact maintains_pure _
  | succ attempts hypothesis =>
    refine counted.bind fun count => (maintains_use _).bind fun below => ?_
    split
    · simp only [drawTable, bind_assoc, pure_bind]
      refine maintains_get.bind fun bench => ?_
      refine maintains_attempt (TableGenerator.gives_draw_prepares {} _)
        (fun _ _ generating same => generating.of_scene same) fun drawn prepares => ?_
      exact (maintains_runSetup steady left prepares).discard.bind fun _ => hypothesis
    · exact maintains_pure _

theorem maintains_createAll (wanted : Value) :
    Maintains (Generating admin empty) (createAll wanted) := by
  have counted : Maintains (Generating admin empty) tableCount :=
    maintains_get.bind fun _ => maintains_pure _
  refine counted.bind fun count => (maintains_use _).bind fun below => ?_
  split
  · exact (maintains_use _).bind fun attempts => maintains_createTables steady left wanted attempts
  · exact maintains_pure _

/-- So do insertions into a table. -/
theorem maintains_fillTable (table : Table) (count : Nat) :
    Maintains (Generating admin empty) (fillTable table count) := by
  induction count with
  | zero => exact maintains_pure _
  | succ count hypothesis =>
    refine maintains_attempt (DataStatement.gives_drawInsert table)
      (fun _ _ generating same => generating.of_scene same) fun statement is => ?_
    exact (maintains_runSetup steady left (DataStatement.prepares_insert is)).discard.bind
      fun _ => hypothesis

theorem maintains_fillTables (wanted : Value) (tables : List Table) :
    Maintains (Generating admin empty) (fillTables wanted tables) := by
  induction tables with
  | nil => exact maintains_pure _
  | cons table tables hypothesis =>
    refine (maintains_use _).bind fun count => ?_
    exact (maintains_fillTable steady left table _).bind fun _ => hypothesis

end

end Bench

end SerialCheck

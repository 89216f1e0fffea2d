import SerialCheck.Proofs.Engine.Commands
import SerialCheck.Proofs.Task

/-!
# The queries that are drawn

Whatever the choices are, a query that is drawn for a kind of statement means to the engine what the
kind says (`gives_drawStatement`), and one that is drawn for a new table defines a table with the free name
(`TableGenerator.gives_draw`).
-/
namespace SerialCheck

/-- The command is of the kind. -/
def StatementKind.Means (kind : StatementKind) (command : Command) : Prop :=
  match kind with
  | .begin => command = .begin
  | .commit => command = .commit
  | .rollback => command = .rollback
  | .insert | .update | .delete => ∃ name, command = .write name
  | .select | .selectForUpdate => ∃ name, command = .read name

namespace StatementKind.Means

variable {kind : StatementKind} {command : Command} (means : kind.Means command)

include means

theorem read (returns : kind.returnsRows = true) : ∃ name, command = .read name := by
  cases kind <;> first | exact means | cases returns

theorem write (data : kind.isControl = false) (changes : kind.returnsRows = false) :
    ∃ name, command = .write name := by
  cases kind <;>
    first | exact means | exact absurd data (by decide) | exact absurd changes (by decide)

theorem closing (ends : kind.isTerminal = true) :
    command = if kind = .commit then .commit else .rollback := by
  cases kind <;> first | exact means | cases ends

end StatementKind.Means

/-- The query has a text whose command is of the kind. -/
def Query.Speaks (query : Query) (kind : StatementKind) : Prop :=
  ∃ text, query.text = .text text ∧ kind.Means (.ofText text)

namespace Attempt

variable {α β : Type}

/-- Whatever the choice returns is good. -/
def Gives (choice : Attempt α) (good : α → Prop) : Prop :=
  ∀ randomness value, (choice.run randomness).1 = .ok value → good value

theorem gives_pure {value : α} {good : α → Prop} (fit : good value) :
    Gives (pure value) good := by
  intro randomness result given
  cases given
  exact fit

theorem gives_throw (cause : GenerationFault) (good : α → Prop) :
    Gives (throw cause) good := by
  intro randomness result given
  cases given

theorem gives_any (choice : Attempt α) : Gives choice fun _ => True := fun _ _ _ => trivial

/-- A draw returns what is drawn. -/
theorem gives_draw (choice : Draw α) :
    Gives (liftM choice) fun value => ∃ randomness, value = (choice randomness).1 := by
  intro randomness value given
  refine ⟨randomness, ?_⟩
  cases given
  rfl

/-- A sequence gives what its second part does for every result of its first part. -/
theorem Gives.bind {choice : Attempt α} {next : α → Attempt β} {good : α → Prop} {fit : β → Prop}
    (first : Gives choice good) (second : ∀ value, good value → Gives (next value) fit) :
    Gives (choice >>= next) fit := by
  intro randomness result given
  have met := first randomness
  change ((ExceptT.bind choice next).run randomness).1 = .ok result at given
  simp only [ExceptT.bind, ExceptT.run, ExceptT.mk, Bind.bind, StateT.bind] at given met
  generalize choice randomness = outcome at given met
  obtain ⟨outcome, later⟩ := outcome
  cases outcome with
  | ok value => exact second value (met value rfl) later result given
  | error cause => cases given

/-- What is met by all that a choice gives may be replaced by what follows from it. -/
theorem Gives.mono {choice : Attempt α} {good fit : α → Prop} (gives : Gives choice good)
    (follows : ∀ value, good value → fit value) : Gives choice fit :=
  fun randomness value given => follows value (gives randomness value given)

/-- One member of a list is one of its members. -/
theorem gives_member (members : List α) : Gives (member members) (· ∈ members) := by
  cases members with
  | nil => exact gives_throw _ _
  | cons first others =>
    intro randomness value given
    obtain ⟨earlier, rfl⟩ := gives_draw (Draw.oneOf first others) randomness value given
    exact Draw.oneOf_mem first others earlier

/-- What is drawn from a pool are members of it. -/
theorem poolMembers_subset (count : Nat) (pool : List α) (randomness : Randomness) :
    (Draw.poolMembers count pool randomness).1 ⊆ pool := by
  induction count generalizing pool randomness with
  | zero => exact List.nil_subset _
  | succ count hypothesis =>
    simp only [Draw.poolMembers, bind, StateT.bind]
    generalize Draw.below pool.length randomness = drawn
    obtain ⟨position, randomness⟩ := drawn
    dsimp only
    cases chosen : pool[position]? with
    | none => exact List.nil_subset _
    | some member =>
      cases final : pool.getLast? with
      | none => exact List.nil_subset _
      | some last =>
        apply List.cons_subset.2
        constructor
        · exact List.mem_of_getElem? chosen
        · intro other inside
          have kept := List.dropLast_subset _ (hypothesis _ randomness inside)
          rcases List.mem_or_eq_of_mem_set kept with there | rfl
          · exact there
          · exact List.mem_of_getLast? final

/-- A subset of a list has members of the list only. -/
theorem gives_subset (members : List α) : Gives (subset members) (· ⊆ members) := by
  have sampled (count : Nat) : Gives (liftM (Draw.sample members count)) (· ⊆ members) := by
    intro randomness value given
    obtain ⟨earlier, rfl⟩ := gives_draw _ randomness value given
    unfold Draw.sample
    split
    · exact poolMembers_subset _ _ _
    · intro other inside
      obtain ⟨position, _, found⟩ := List.mem_filterMap.1 inside
      exact List.mem_of_getElem? found
  unfold subset
  split
  · exact gives_throw _ _
  · exact (gives_any _).bind fun count _ => sampled _

end Attempt

/-- A table that is drawn is one of the known ones. -/
theorem Schema.gives_randomTable (schema : Schema) :
    Attempt.Gives schema.randomTable (· ∈ schema.tables) := by
  unfold randomTable
  split
  · exact Attempt.gives_throw _ _
  · split
    · exact Attempt.gives_throw _ _
    · intro randomness table given
      have sorted := Attempt.gives_member _ randomness table given
      exact (sort_perm _ _).subset sorted

namespace DataStatement

/-- The text of a query is that of its statement. -/
theorem query_text (statement : DataStatement) : statement.query.text = .text statement.render := by
  unfold query
  split <;> rfl

/-- The kinds of statements that a data statement can be of. -/
def Is (statement : DataStatement) : StatementKind → Prop
  | .insert => ∃ table columns rows, statement = .insert table columns rows
  | .select => ∃ table columns condition, statement = .select table columns condition false
  | .selectForUpdate => ∃ table columns condition, statement = .select table columns condition true
  | .delete => ∃ table condition, statement = .delete table condition
  | .update => ∃ table assignments condition, statement = .update table assignments condition
  | _ => False

/-- The text of a reading statement. -/
theorem means_select (table : String) (columns : Option (List String))
    (condition : Option Predicate) (locking : Bool) :
    ∃ name, Command.ofText (render (.select table columns condition locking)) = .read name := by
  have cut : render (.select table columns condition locking) = "SELECT " ++
      (columns.elim "*" commaList ++ " FROM " ++
        (table ++ renderCondition condition ++ if locking then " FOR UPDATE" else "")) := by
    simp only [render, String.append_assoc]
  rw [cut]
  exact Command.ofText_select_from _ _

/-- The query of a statement says what its kind does. -/
theorem speaks (statement : DataStatement) {kind : StatementKind} (is : statement.Is kind) :
    statement.query.Speaks kind := by
  refine ⟨statement.render, statement.query_text, ?_⟩
  cases kind with
  | insert =>
    obtain ⟨table, columns, rows, rfl⟩ := is
    show ∃ name, Command.ofText (render (.insert table columns rows)) = .write name
    simp only [render, String.append_assoc]
    exact ⟨_, Command.ofText_insert _⟩
  | select =>
    obtain ⟨table, columns, condition, rfl⟩ := is
    exact means_select _ _ _ _
  | selectForUpdate =>
    obtain ⟨table, columns, condition, rfl⟩ := is
    exact means_select _ _ _ _
  | delete =>
    obtain ⟨table, condition, rfl⟩ := is
    show ∃ name, Command.ofText (render (.delete table condition)) = .write name
    simp only [render, String.append_assoc]
    exact ⟨_, Command.ofText_delete _⟩
  | update =>
    obtain ⟨table, assignments, condition, rfl⟩ := is
    show ∃ name, Command.ofText (render (.update table assignments condition)) = .write name
    simp only [render, String.append_assoc]
    exact ⟨_, Command.ofText_update _⟩
  | begin => exact is.elim
  | commit => exact is.elim
  | rollback => exact is.elim

open Attempt

/-- An insertion is drawn as such. -/
theorem gives_drawInsert (table : Table) : Gives (drawInsert table) (·.Is .insert) := by
  refine (gives_any _).bind fun columns _ => (gives_any _).bind fun count _ => ?_
  refine (gives_any _).bind fun rows _ => (gives_any _).bind fun names _ => ?_
  exact gives_pure ⟨_, _, _, rfl⟩

/-- So is a statement that reads. -/
theorem gives_drawSelect (locking : Bool) (table : Table) :
    Gives (drawSelect locking table)
      (·.Is (if locking then .selectForUpdate else .select)) := by
  refine (gives_any _).bind fun columns _ => (gives_any _).bind fun condition _ => ?_
  cases locking <;> exact gives_pure ⟨_, _, _, rfl⟩

theorem gives_drawDelete (table : Table) : Gives (drawDelete table) (·.Is .delete) :=
  (gives_any _).bind fun _ _ => gives_pure ⟨_, _, rfl⟩

theorem gives_drawUpdate (table : Table) : Gives (drawUpdate table) (·.Is .update) := by
  refine (gives_any _).bind fun columns _ => (gives_any _).bind fun assignments _ => ?_
  exact (gives_any _).bind fun condition _ => gives_pure ⟨_, _, _, rfl⟩

end DataStatement

open Attempt

/-- An opening statement begins with an opening word. -/
theorem gives_drawOpening (level : Value) : Gives (drawOpening level) (·.Speaks .begin) := by
  refine (gives_draw (Draw.oneOf openingWords.1 [openingWords.2])).bind fun word drawn => ?_
  have opening : word = "BEGIN" ∨ word = "START TRANSACTION" := by
    obtain ⟨randomness, same⟩ := drawn
    have listed := Draw.oneOf_mem openingWords.1 [openingWords.2] randomness
    rw [← same, List.mem_cons, List.mem_singleton] at listed
    exact listed
  split
  · refine gives_pure ⟨word, rfl, ?_⟩
    have same : word = word ++ "" := by simp
    rw [same]
    exact Command.ofText_opening opening ""
  · split
    next level' _ =>
      refine gives_pure ⟨_, rfl, ?_⟩
      rw [String.append_assoc]
      exact Command.ofText_opening opening _
    next cause _ => exact gives_throw _ _

/-- A query that is drawn for a data kind is that of a statement of the kind. -/
theorem gives_drawStatement_data (schema : Schema) (level : Value) {kind : StatementKind}
    (data : kind.isControl = false) :
    Gives (drawStatement schema level kind) fun query =>
      ∃ statement : DataStatement, statement.Is kind ∧ query = statement.query := by
  have drawn {draw : Table → Attempt DataStatement} (is : ∀ table, Gives (draw table) (·.Is kind)) :
      Gives (do return (← draw (← schema.randomTable)).query) fun query =>
        ∃ statement : DataStatement, statement.Is kind ∧ query = statement.query := by
    refine (gives_any _).bind fun table _ => (is table).bind fun statement is => ?_
    exact gives_pure ⟨statement, is, rfl⟩
  cases kind with
  | insert => exact drawn DataStatement.gives_drawInsert
  | select => exact drawn (DataStatement.gives_drawSelect false)
  | selectForUpdate => exact drawn (DataStatement.gives_drawSelect true)
  | delete => exact drawn DataStatement.gives_drawDelete
  | update => exact drawn DataStatement.gives_drawUpdate
  | begin | commit | rollback => cases data

/-- A query that is drawn for a kind says what the kind does. -/
theorem gives_drawStatement (schema : Schema) (level : Value) (kind : StatementKind) :
    Gives (drawStatement schema level kind) (·.Speaks kind) := by
  cases control : kind.isControl with
  | false =>
    refine (gives_drawStatement_data schema level control).mono ?_
    rintro _ ⟨statement, is, rfl⟩
    exact statement.speaks is
  | true =>
    cases kind with
    | begin => exact gives_drawOpening level
    | commit => exact gives_pure ⟨_, rfl, Command.ofText_commit⟩
    | rollback => exact gives_pure ⟨_, rfl, Command.ofText_rollback⟩
    | insert | select | selectForUpdate | delete | update => cases control

/-- The name of the table that is created. -/
def TableDefinition.name : TableDefinition → String
  | .copy name _ => name
  | .fresh name _ _ => name

/-- The query that is drawn for a new table is that of a definition with the free name. -/
theorem TableGenerator.gives_draw (generator : TableGenerator) (schema : Schema) :
    Gives (generator.draw schema) fun made => ∃ columns definition further,
      TableDefinition.name definition = schema.freeName ∧
        made = generator.finish columns definition further := by
  refine (gives_any _).bind fun copies _ => ?_
  split
  · exact (gives_any _).bind fun model _ => gives_pure ⟨_, _, _, rfl, rfl⟩
  · refine (gives_any _).bind fun count _ => (gives_any _).bind fun keyAllowed _ => ?_
    refine (gives_any _).bind fun apart _ => (gives_any _).bind fun columns _ => ?_
    refine (gives_any _).bind fun clauses _ => (gives_any _).bind fun key _ => ?_
    exact gives_pure ⟨columns, .fresh schema.freeName clauses key, _, rfl, rfl⟩

end SerialCheck

import SerialCheck.Generation
import SerialCheck.Proofs.Generated.Queries
import SerialCheck.Proofs.Numbered

/-!
# Generated transactions

A transaction that is generated over the known tables is numbered, and its statements mean to the engine
what their kinds say. `Task.GivesOver` says what a task of the generation returns, whatever the bench it
begins on, as long as statements are drawn there, and not scripted, over tables that meet a condition.
-/
namespace SerialCheck

/-- A transaction that has been generated over the known tables of a bench. -/
def OpenTransaction.Generated (transaction : OpenTransaction) : Prop :=
  ∃ earlier later, earlier.synthesizer = .grammar ∧
    Generation.transaction.Returns earlier transaction later

/-- A transaction that has been generated over the tables of a schema. -/
def OpenTransaction.GeneratedOver (schema : Schema) (transaction : OpenTransaction) : Prop :=
  ∃ earlier later, earlier.synthesizer = .grammar ∧ earlier.schema = schema ∧
    Generation.transaction.Returns earlier transaction later

/-- Statements are drawn on the bench, over known tables that meet a condition. -/
structure Bench.Draws (known : Schema → Prop) (bench : Bench) : Prop where
  /-- Statements are drawn. -/
  grammar : bench.synthesizer = .grammar
  /-- The tables meet the condition. -/
  tables : known bench.schema

namespace Task

variable {α β : Type}

/-- Where statements are drawn over the known tables the task leaves it at that, and whatever it
returns is good. -/
def Gives (task : Task α) (good : α → Prop) : Prop :=
  ∀ bench, bench.synthesizer = .grammar →
    (task bench).2.synthesizer = .grammar ∧ ∀ value, (task bench).1 = .ok value → good value

/-- Where statements are drawn over tables that meet a condition the task leaves it at that, and whatever
it returns is good. -/
def GivesOver (known : Schema → Prop) (task : Task α) (good : α → Prop) : Prop :=
  ∀ bench, bench.Draws known →
    (task bench).2.Draws known ∧ ∀ value, (task bench).1 = .ok value → good value

variable {known : Schema → Prop}

theorem gives_pure {value : α} {good : α → Prop} (fit : good value) :
    GivesOver known (pure value) good := by
  intro bench draws
  refine ⟨draws, fun result given => ?_⟩
  cases given
  exact fit

theorem gives_throw (fault : Fault) (good : α → Prop) : GivesOver known (throw fault) good := by
  intro bench draws
  refine ⟨draws, fun result given => ?_⟩
  cases given

/-- A sequence gives what its second part does for every result of its first part. -/
theorem GivesOver.bind {task : Task α} {next : α → Task β} {good : α → Prop} {fit : β → Prop}
    (first : GivesOver known task good) (second : ∀ value, good value → GivesOver known (next value) fit) :
    GivesOver known (task >>= next) fit := by
  intro bench draws
  obtain ⟨kept, met⟩ := first bench draws
  rw [bind_apply]
  generalize task bench = outcome at kept met
  obtain ⟨outcome, later⟩ := outcome
  cases outcome with
  | ok value => exact second value (met value rfl) later kept
  | error fault =>
    refine ⟨kept, fun result given => ?_⟩
    cases given

/-- The bench that is read is one on which statements are drawn. -/
theorem gives_get : GivesOver known get fun bench : Bench => bench.Draws known := by
  intro bench draws
  refine ⟨draws, fun value given => ?_⟩
  cases given
  exact draws

theorem gives_modify {change : Bench → Bench}
    (kept : ∀ bench : Bench, bench.Draws known → (change bench).Draws known) :
    GivesOver known (modify change : Task PUnit) fun _ => True := fun bench draws =>
  ⟨kept bench draws, fun _ _ => trivial⟩

theorem gives_set {given : Bench} (draws : given.Draws known) :
    GivesOver known (set given : Task PUnit) fun _ => True := fun _ _ => ⟨draws, fun _ _ => trivial⟩

theorem gives_log (level : Level) (text : String) : GivesOver known (log level text) fun _ => True :=
  gives_modify fun _ draws => ⟨draws.grammar, draws.tables⟩

theorem gives_use (given : Except Misuse α) : GivesOver known (use given) (given = .ok ·) := by
  cases given with
  | ok value => exact gives_pure rfl
  | error cause => exact gives_throw _ _

theorem gives_release (given : Except Fault α) : GivesOver known (release given) (given = .ok ·) := by
  cases given with
  | ok value => exact gives_pure rfl
  | error fault => exact gives_throw _ _

/-- A choice gives what it can choose. -/
theorem gives_attempt {choice : Attempt α} {good : α → Prop} (gives : choice.Gives good) :
    GivesOver known (attempt choice) good := by
  have drawn : GivesOver known (draw choice.run) fun outcome =>
      ∀ value, outcome = .ok value → good value := by
    intro bench draws
    refine ⟨⟨draws.grammar, draws.tables⟩, fun outcome given value same => ?_⟩
    cases given
    exact gives _ value same
  refine drawn.bind fun outcome met => ?_
  cases outcome with
  | ok value => exact gives_pure (met value rfl)
  | error cause => exact gives_throw _ _

/-- A result that is held is good. -/
theorem GivesOver.caught {task : Task α} {good : α → Prop} (gives : GivesOver known task good) :
    GivesOver known (caught task) fun outcome => ∀ value, outcome = .ok value → good value := by
  intro bench draws
  refine ⟨(gives bench draws).1, fun outcome given value same => ?_⟩
  cases given
  exact (gives bench draws).2 value same

end Task

open SerialCheck.Task

namespace Bench

variable {known : Schema → Prop}

/-- Opening a session leaves how statements come about. -/
theorem gives_openSession : GivesOver known openSession fun _ => True := by
  have connected : ∀ label, GivesOver known (connect label) fun _ => True := by
    intro label
    refine gives_get.bind fun bench draws => (gives_use _).bind fun address _ => ?_
    split
    refine (gives_set ?_).bind fun _ _ => (gives_release _).bind fun session _ => ?_
    · exact ⟨draws.grammar, draws.tables⟩
    · exact (gives_log _ _).bind fun _ _ => gives_pure trivial
  refine (gives_modify ?_).bind fun _ _ => gives_get.bind fun bench _ => connected _
  exact fun _ draws => ⟨draws.grammar, draws.tables⟩

/-- So does closing one. -/
theorem gives_closeSession (session : Session) :
    GivesOver known (closeSession session) fun _ => True := by
  refine gives_get.bind fun bench draws => ?_
  split
  · exact gives_pure trivial
  · refine (gives_set ?_).bind fun _ _ => gives_log _ _
    exact ⟨draws.grammar, draws.tables⟩

end Bench

/-- The statement stands at a place of a transaction and means what its kind says. -/
structure Statement.Stands (statement : Statement) (id : Int) (place : Nat) : Prop where
  /-- It carries the number of the transaction. -/
  transaction : statement.transaction = .integer id
  /-- It carries its place. -/
  index : statement.index = .integer place
  /-- It means what its kind says. -/
  speaks : ∃ text, statement.text = .text text ∧ statement.kind.Means (.ofText text)

/-- What the engine does on receiving the statement is of its kind. -/
theorem Statement.Stands.means {statement : Statement} {id : Int} {place : Nat}
    (stands : statement.Stands id place) : statement.kind.Means statement.command := by
  obtain ⟨text, said, means⟩ := stands.speaks
  rw [command, said]
  exact means

namespace Generation

/-- The statements of a transaction stand one behind the other. -/
structure Formed (transaction : Transaction) (number : Int) : Prop where
  /-- The transaction is known by the number. -/
  id : transaction.id = .integer number
  /-- Each statement stands at its place. -/
  stands : ∀ (place : Nat) (statement : Statement),
    transaction.statements[place]? = some statement → statement.Stands number place
  /-- The errors that the statements behind the first one expect are texts. -/
  strays : ∀ statement ∈ transaction.data ++ [transaction.closing], statement.strays = []

section

variable {known : Schema → Prop} {fits : StatementKind → Value → Prop}

/-- The opening statement stands in front. -/
theorem gives_openingOf (id : Int) {query : Query} (speaks : query.Speaks .begin) :
    GivesOver known (openingOf id query) (·.val.Stands id 0) := by
  refine gives_get.bind fun bench _ => ?_
  split
  · exact gives_pure ⟨rfl, rfl, speaks⟩
  · split
    · exact gives_throw _ _
    · exact gives_pure ⟨rfl, rfl, speaks⟩

variable (drawn : ∀ schema, known schema → ∀ level kind,
  (drawStatement schema level kind).Gives fun query => query.Speaks kind ∧ fits kind query.text)

include drawn

/-- A query that is drawn says what its kind does, and its text fits the kind. -/
theorem gives_statement (kind : StatementKind) :
    GivesOver known (Synthesizer.statement kind) fun query =>
      query.Speaks kind ∧ fits kind query.text := by
  refine gives_get.bind fun bench draws => ?_
  rw [draws.grammar]
  exact gives_attempt (drawn _ draws.tables _ kind)

/-- An attempt that succeeds says what the kind does that was drawn. -/
theorem gives_tryData : GivesOver known tryData fun made => ∀ query, made.2 = .ok query →
    query.Speaks made.1.val ∧ fits made.1.val query.text := by
  refine gives_get.bind fun bench _ => ?_
  refine (gives_attempt (Attempt.gives_any _)).bind fun kind _ => ?_
  refine (gives_statement drawn kind.val).caught.bind fun outcome met => ?_
  split
  next query =>
    refine gives_pure fun other same => ?_
    cases same
    exact met query rfl
  next cause =>
    refine gives_pure fun other same => ?_
    cases same
  next => exact gives_throw _ _

/-- So does a data statement, after however many attempts. -/
theorem gives_dataStatement (attempts : Value) (further : Nat) :
    GivesOver known (dataStatement attempts further) fun made =>
      made.2.Speaks made.1.val ∧ fits made.1.val made.2.text := by
  induction further with
  | zero =>
    refine (gives_tryData drawn).bind fun made met => ?_
    split
    next kind query => exact gives_pure (met query rfl)
    next => exact gives_throw _ _
  | succ further hypothesis =>
    refine (gives_tryData drawn).bind fun made met => ?_
    split
    next kind query => exact gives_pure (met query rfl)
    next => exact hypothesis

/-- The data statements stand one behind the other, and there are as many as asked for. -/
theorem gives_dataStatements (id : Int) (count index : Nat) :
    GivesOver known (dataStatements id count index) fun items => items.length = count ∧
      ∀ (place : Nat) (item : DataItem), items[place]? = some item →
        item.val.Stands id (index + place) ∧ item.val.strays = [] ∧
          fits item.val.kind item.val.text := by
  induction count generalizing index with
  | zero => exact gives_pure ⟨rfl, fun _ _ found => by cases found⟩
  | succ count hypothesis =>
    refine gives_get.bind fun bench _ => (gives_use _).bind fun attempts _ => ?_
    refine (gives_dataStatement drawn _ _).bind fun made given => ?_
    obtain ⟨kind, query⟩ := made
    obtain ⟨speaks, fit⟩ := given
    refine (hypothesis (index + 1)).bind fun rest met => gives_pure ?_
    refine ⟨by rw [List.length_cons, met.1], fun place item found => ?_⟩
    cases place with
    | zero =>
      cases found
      exact ⟨⟨rfl, rfl, speaks⟩, rfl, fit⟩
    | succ place =>
      have stands := met.2 place item found
      rw [Nat.add_assoc, Nat.add_comm 1 place] at stands
      exact stands

/-- The statements of a generated transaction are formed, and the texts of its data statements fit their
kinds. -/
theorem gives_statements (id : Int) (given : Value) :
    GivesOver known (statements id given) fun made =>
      Formed made id ∧ ∀ statement ∈ made.data, fits statement.kind statement.text := by
  refine (gives_statement drawn .begin).bind fun query begins => ?_
  refine (gives_openingOf id begins.1).bind fun opening stands => ?_
  refine (gives_use _).bind fun size _ => (gives_dataStatements drawn id _ 1).bind fun data met => ?_
  have closed : GivesOver known drawClosing fun _ => True := by
    refine gives_get.bind fun bench _ => ?_
    exact (gives_attempt (Attempt.gives_any _)).bind fun _ _ => gives_pure trivial
  refine closed.bind fun kind _ => (gives_statement drawn kind.val).bind fun closing closes => ?_
  have each : ∀ statement ∈ data.map Subtype.val, statement.strays = [] ∧
      fits statement.kind statement.text := by
    intro statement inside
    obtain ⟨item, listed, rfl⟩ := List.mem_map.1 inside
    obtain ⟨place, there⟩ := List.mem_iff_getElem?.1 listed
    exact (met.2 place item there).2
  refine gives_pure ⟨⟨rfl, fun place statement found => ?_, fun statement member => ?_⟩,
    fun statement inside => (each statement inside).2⟩
  · cases place with
    | zero =>
      cases found
      exact stands
    | succ place =>
      have behind : (data.map Subtype.val ++ [⟨.integer id, .integer ((size.toNat : Int) + 1),
          kind.val, closing.text, closing.expected, []⟩])[place]? = some statement := found
      -- behind the opening stand the data statements, and the closing one behind all of these
      by_cases inside : place < data.length
      · rw [List.getElem?_append_left (by simpa using inside), List.getElem?_map] at behind
        obtain ⟨item, there, rfl⟩ := Option.map_eq_some_iff.1 behind
        rw [Nat.add_comm]
        exact (met.2 place item there).1
      · have within : place < data.length + 1 := by
          simpa using (List.getElem?_eq_some_iff.1 behind).1
        have final : place = size.toNat := by
          rw [← met.1]
          omega
        subst final
        rw [← met.1, List.getElem?_append_right (by simp)] at behind
        simp only [List.length_map, Nat.sub_self, List.getElem?_cons_zero, Option.some.injEq]
          at behind
        rw [← behind]
        exact ⟨rfl, by simp [met.1], closes.1⟩
  · rcases List.mem_append.1 member with inside | last
    · exact (each statement inside).1
    · rw [List.mem_singleton.1 last]

/-- So are those of a transaction with its session. -/
theorem givesOver_transaction : GivesOver known transaction fun made =>
    (∃ number, Formed made.toTransaction number) ∧
      ∀ statement ∈ made.data, fits statement.kind statement.text := by
  have sized : GivesOver known drawSize fun _ => True := by
    refine gives_get.bind fun bench _ => (gives_use _).bind fun beyond _ => ?_
    exact gives_attempt (Attempt.gives_any _)
  have numbered : GivesOver known nextId fun _ => True := by
    refine gives_get.bind fun bench _ => (gives_modify ?_).bind fun _ _ => gives_pure trivial
    exact fun _ draws => ⟨draws.grammar, draws.tables⟩
  refine sized.bind fun size _ => numbered.bind fun id _ => ?_
  refine Bench.gives_openSession.caught.bind fun outcome _ => ?_
  split
  · exact gives_throw _ _
  next session =>
    refine (gives_statements drawn id size).caught.bind fun outcome met => ?_
    split
    next fault =>
      split
      · exact (Bench.gives_closeSession _).bind fun _ _ => gives_throw _ _
      · exact gives_throw _ _
    next made =>
      obtain ⟨formed, fit⟩ := met made rfl
      exact (gives_log _ _).bind fun _ _ => gives_pure ⟨⟨id, formed⟩, fit⟩

end

/-- Generating a transaction leaves the known tables as they are, and its statements are formed. -/
theorem givesOver_formed (schema : Schema) : GivesOver (· = schema) transaction fun made =>
    ∃ number, Formed made.toTransaction number := by
  have drawn : ∀ other, other = schema → ∀ level kind,
      (drawStatement other level kind).Gives fun query => query.Speaks kind ∧ True :=
    fun other _ level kind randomness query given =>
      ⟨gives_drawStatement other level kind randomness query given, trivial⟩
  intro bench draws
  obtain ⟨kept, met⟩ := @givesOver_transaction (· = schema) (fun _ _ => True) drawn bench draws
  exact ⟨kept, fun made given => (met made given).1⟩

/-- The statements of a generated transaction are formed. -/
theorem gives_transaction : Gives transaction fun made => ∃ number, Formed made.toTransaction number := by
  intro bench grammar
  obtain ⟨kept, met⟩ := givesOver_formed bench.schema bench ⟨grammar, rfl⟩
  exact ⟨kept.grammar, met⟩

namespace Formed

variable {transaction : Transaction} {number : Int} (formed : Formed transaction number)

include formed

/-- The statements carry the number of the transaction and their places. -/
theorem numbered : transaction.Numbered where
  id := ⟨number, formed.id⟩
  statements := fun place statement found =>
    have stands := formed.stands place statement found
    ⟨stands.transaction.trans formed.id.symm, stands.index⟩

/-- The statements mean what their kinds say. -/
theorem means {statement : Statement} (member : statement ∈ transaction.statements) :
    statement.kind.Means statement.command := by
  obtain ⟨place, found⟩ := List.mem_iff_getElem?.1 member
  exact (formed.stands place statement found).means

/-- So the engine understands the transaction. -/
theorem spoken : transaction.Spoken where
  text := by
    intro statement member
    obtain ⟨place, found⟩ := List.mem_iff_getElem?.1 member
    obtain ⟨text, said, _⟩ := (formed.stands place statement found).speaks
    exact ⟨text, said⟩
  opening := by
    have means := formed.means (List.mem_cons_self : transaction.opening ∈ transaction.statements)
    rw [transaction.opens] at means
    exact means
  read := fun _ member returns =>
    (formed.means (List.mem_append_left _ (List.mem_cons_of_mem _ member))).read returns
  write := fun statement member changes =>
    (formed.means (List.mem_append_left _ (List.mem_cons_of_mem _ member))).write
      (transaction.dataOnly statement member) changes
  closing :=
    (formed.means (List.mem_append_right _ (List.mem_singleton.2 rfl))).closing transaction.closes
  strays := formed.strays

end Formed

end Generation

/-- What is generated over the tables of a schema is generated over known tables. -/
theorem OpenTransaction.GeneratedOver.generated {schema : Schema} {transaction : OpenTransaction}
    (generated : transaction.GeneratedOver schema) : transaction.Generated := by
  obtain ⟨earlier, later, grammar, _, returned⟩ := generated
  exact ⟨earlier, later, grammar, returned⟩

/-- A generated transaction is numbered, and the engine understands it. -/
theorem OpenTransaction.Generated.numbered_spoken {transaction : OpenTransaction}
    (generated : transaction.Generated) : transaction.Numbered ∧ transaction.Spoken := by
  obtain ⟨earlier, later, grammar, returned⟩ := generated
  obtain ⟨number, formed⟩ :=
    (Generation.gives_transaction earlier grammar).2 transaction (congrArg Prod.fst returned)
  exact ⟨formed.numbered, formed.spoken⟩

end SerialCheck

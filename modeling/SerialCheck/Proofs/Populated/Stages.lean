import SerialCheck.Proofs.Generated.Beginning
import SerialCheck.Proofs.Generated.Known
import SerialCheck.Proofs.Numbered
import SerialCheck.Proofs.Populated.Attempts
import SerialCheck.Proofs.Populated.Tables

/-!
# Creating and filling tables

The definition of a table that is drawn names the free name of the schema, and an insertion that is drawn
names its table. To the engine they mean what they say (`TableDefinition.command_render`,
`DataStatement.command_insert`), and both are always drawn (`Bench.drawTable_returns`,
`Bench.drawInsert_returns`). On an administered bench a setup statement that the engine can follow succeeds and joins the setup log
(`Bench.Administered.runSetup_returns`). So each definition that is drawn creates the next table, until there
are as many as wanted (`Bench.Created.createAll_returns`), and each insertion that is drawn adds a row to
its table (`Bench.Administered.fillTables_returns`).
-/
namespace SerialCheck

/-! ## Statements that create and fill tables -/

section

open Attempt

/-- What begins with an opening parenthesis sets off the name in front of it. -/
theorem Command.setsOff_append {front : String} (opens : front.toList.head? = some '(') (rest : String) :
    SetsOff (front ++ rest) := by
  intro char first
  rw [String.toList_append, List.head?_append, opens] at first
  exact .inr (Option.some.inj first).symm

/-- A definition creates the table that it names. -/
theorem TableDefinition.command_render (definition : TableDefinition) (plain : IsPlainName definition.name) :
    Command.ofText definition.render = .create definition.name := by
  unfold render
  cases definition with
  | copy name model =>
    simp only [String.append_assoc]
    rw [Command.ofText_create]
    exact congrArg Command.create (Command.nameAt_append plain (Command.setsOff_append rfl _))
  | fresh name clauses key =>
    simp only [String.append_assoc]
    rw [Command.ofText_create]
    exact congrArg Command.create (Command.nameAt_append plain (Command.setsOff_append rfl _))

/-- An insertion adds to the table that it names. -/
theorem DataStatement.command_insert {name : String} (plain : IsPlainName name) (columns : List String)
    (rows : List (List Constant)) :
    Command.ofText (render (.insert name columns rows)) = .write name := by
  simp only [render, String.append_assoc]
  rw [Command.ofText_insert]
  exact congrArg Command.write (Command.nameAt_append plain (Command.setsOff_append rfl _))

namespace Query

/-- The query creates the table with the name. -/
def Defines (query : Query) (name : String) : Prop :=
  ∃ definition : TableDefinition, definition.name = name ∧ query.text = .text definition.render

/-- The query adds to the table with the name. -/
def Inserts (query : Query) (name : String) : Prop :=
  ∃ columns rows, query.text = .text (DataStatement.render (.insert name columns rows))

end Query

/-- The definition that is drawn is one of a table with the free name. -/
theorem TableGenerator.gives_draw_defines (generator : TableGenerator) (schema : Schema) :
    (generator.draw schema).Gives fun made =>
      made.1.Defines schema.freeName ∧ made.1.changesSchema = true := by
  refine (generator.gives_draw schema).mono ?_
  rintro _ ⟨columns, definition, further, name, rfl⟩
  exact ⟨⟨definition, name, rfl⟩, rfl⟩

/-- The insertion that is drawn for a table names it. -/
theorem DataStatement.gives_drawInsert_query (table : Table) :
    (drawInsert table).Gives fun statement =>
      statement.query.Inserts table.name ∧ statement.query.changesSchema = false := by
  refine (gives_any _).bind fun columns _ => (gives_any _).bind fun count _ => ?_
  refine (gives_any _).bind fun rows _ => (gives_any _).bind fun names _ => ?_
  exact gives_pure ⟨⟨names, rows, rfl⟩, rfl⟩

namespace Bench

open SerialCheck.Generation

variable {bench : Bench}

/-- The definition of a table is always drawn if the names of the known tables are texts. -/
theorem drawTable_returns (named : bench.schema.Named) :
    ∃ query after, drawTable.Returns bench query after ∧ bench.Redrawn after ∧
      query.Defines bench.schema.freeName ∧ query.changesSchema = true := by
  obtain ⟨made, after, returned⟩ := attempt_returns (TableGenerator.sure_draw {} named) bench
  have drawn := attempt_gives (TableGenerator.gives_draw_defines {} bench.schema) returned
  refine ⟨made.1, after, ?_, redrawn_attempt returned, drawn⟩
  rw [drawTable, Task.returns_get_bind]
  exact Task.returns_bind.2 ⟨made, after, returned, Task.returns_pure.2 ⟨rfl, rfl⟩⟩

/-- An insertion is always drawn for a table with columns whose names are texts. -/
theorem drawInsert_returns {table : Table} (some_there : table.columns ≠ [])
    (named : ∀ column ∈ table.columns, column.entry = none) :
    ∃ statement after, (Task.attempt (DataStatement.drawInsert table)).Returns bench statement after ∧
      bench.Redrawn after ∧ statement.query.Inserts table.name ∧
        statement.query.changesSchema = false := by
  obtain ⟨statement, after, returned⟩ :=
    attempt_returns (DataStatement.sure_drawInsert some_there named) bench
  have drawn := attempt_gives (DataStatement.gives_drawInsert_query table) returned
  exact ⟨statement, after, returned, redrawn_attempt returned, drawn⟩

end Bench

end

/-! ## Tables and rows -/

open SerialCheck.Task

/-- The row that the engine keeps of a statement that adds to a table. -/
def Query.row (query : Query) : Value := .row [query.text]

namespace Bench

variable {bench after : Bench} {admin : Session} {database later : Database}

/-- A bench over the same server with the same session for setup statements is administered too. -/
theorem Administered.of_same (ready : bench.Administered admin database)
    (server : after.server = bench.server) (session : after.admin = bench.admin) :
    after.Administered admin database where
  session := session.trans ready.session
  calm := server ▸ ready.calm
  database := server ▸ ready.database
  idle := server ▸ ready.idle

/-- A setup statement that the engine can follow succeeds and joins the setup log. If it may change which
tables there are, they are read again. -/
theorem Administered.runSetup_returns (ready : bench.Administered admin database) {query : Query}
    {text : String} {schema : Schema} (said : query.text = .text text) (setup : IsSetup text)
    (done : database.setUp text = some later)
    (known : if query.changesSchema then later.Tells schema else schema = bench.schema) :
    ∃ after, (runSetup query).Returns bench true after ∧ after.Administered admin later ∧
      after.schema = schema ∧ after.setupLog = bench.setupLog ++ [query] := by
  rcases Engine.execute_setup setup database with ⟨_, _, failed⟩ | ⟨made, answered, same⟩
  · rw [failed] at done
    cases done
  · obtain rfl : made = later := Option.some.inj (same.symm.trans done)
    obtain ⟨_, sent, _⟩ := ready.send answered
    let logged : Bench := { bench.afterSending admin (.text text) with
      setupLog := bench.setupLog ++ [query] }
    have still : logged.Administered admin made := sent.of_same rfl rfl
    by_cases changes : query.changesSchema = true
    · rw [if_pos changes] at known
      obtain ⟨again, _⟩ := still.afterReading schema
      refine ⟨logged.afterReading admin schema, ?_, again, rfl, rfl⟩
      rw [runSetup, said, ready.setup_returns answered]
      refine returns_bind.2 ⟨(), logged, returns_modify.2 rfl, ?_⟩
      rw [if_pos changes]
      have read := still.updateSchema_returns.2 ⟨schema, known, rfl⟩
      exact returns_bind.2 ⟨(), _, read, returns_pure.2 ⟨rfl, rfl⟩⟩
    · rw [if_neg changes] at known
      refine ⟨logged, ?_, still, known.symm, rfl⟩
      rw [runSetup, said, ready.setup_returns answered]
      refine returns_bind.2 ⟨(), logged, returns_modify.2 rfl, ?_⟩
      rw [if_neg changes]
      exact returns_pure.2 ⟨rfl, rfl⟩

/-! ## Creating tables -/

/-- The first tables have been created, and nothing else has been set up. -/
structure Created (bench : Bench) (admin : Session) (count : Nat) : Prop where
  /-- The database has these tables, and the schema is what its catalog tells. -/
  tables : ∃ database, bench.Administered admin database ∧ database.Numbered count ∧
    database.Tells bench.schema
  /-- The setup log defines them in order. -/
  log : List.Forall₂ Query.Defines bench.setupLog ((List.range count).map Schema.tableName)

namespace Created

variable {count : Nat}

/-- One more table is created. -/
theorem next (created : bench.Created admin count) :
    ∃ query drawn after, drawTable.Returns bench query drawn ∧ (runSetup query).Returns drawn true after ∧
      after.Created admin (count + 1) := by
  obtain ⟨database, ready, numbered, tells⟩ := created.tables
  have lists := numbered.lists tells
  obtain ⟨query, drawn, returned, redrawn, ⟨definition, name, said⟩, changes⟩ :=
    drawTable_returns lists.distinct.named
  rw [lists.freeName] at name
  have plain : IsPlainName definition.name := name ▸ Schema.isPlainName_tableName count
  have means : Command.ofText definition.render = .create (Schema.tableName count) := by
    rw [definition.command_render plain, name]
  obtain ⟨later, done, further⟩ := numbered.setUp means
  obtain ⟨schema, told, _⟩ := further.worded.readable
  have still := ready.of_same redrawn.beside.server redrawn.beside.admin
  have known : if query.changesSchema then later.Tells schema else schema = drawn.schema := by
    rwa [if_pos changes]
  obtain ⟨after, ran, made, same, logged⟩ :=
    still.runSetup_returns said (.inl ⟨_, means⟩) done known
  refine ⟨query, drawn, after, returned, ran, ⟨later, made, further, same ▸ told⟩, ?_⟩
  have before : drawn.setupLog = bench.setupLog := congrArg (·.2.1) redrawn.beside.plan
  rw [logged, before, List.range_succ, List.map_append]
  exact List.rel_append created.log (.cons ⟨definition, name, said⟩ .nil)

/-- Whether more tables are wanted is told by the number of those that have been created. -/
theorem asks_returns (created : bench.Created admin count) (wanted : Nat) {α : Type}
    {further : Bool → Task α} {result : α} :
    (tableCount >>= fun known => use (known.isBelow (.integer wanted)) >>= further).Returns bench result
        after ↔ (further (decide (count < wanted))).Returns bench result after := by
  obtain ⟨database, _, numbered, tells⟩ := created.tables
  have counted : tableCount.Returns bench (.integer count) bench := by
    rw [← (numbered.lists tells).length]
    exact returns_get_bind.2 (returns_pure.2 ⟨rfl, rfl⟩)
  have asked : (use ((Value.integer count).isBelow (.integer wanted))).Returns bench
      (decide (count < wanted)) bench := by
    rw [Value.isBelow_integer]
    simp only [Int.ofNat_lt]
    exact returns_use.2 ⟨rfl, rfl⟩
  unfold Returns
  rw [counted.bind_apply, asked.bind_apply]

/-- As many tables as wanted are created if there are enough attempts. -/
theorem createTables_returns {wanted attempts : Nat} (created : bench.Created admin count)
    (more : count ≤ wanted) (enough : wanted ≤ count + attempts) :
    ∃ after, (createTables (.integer wanted) attempts).Returns bench () after ∧
      after.Created admin wanted := by
  induction attempts generalizing bench count with
  | zero =>
    obtain rfl : count = wanted := by omega
    refine ⟨bench, ?_, created⟩
    rw [createTables, created.asks_returns, decide_eq_false (Nat.lt_irrefl count)]
    exact returns_pure.2 ⟨rfl, rfl⟩
  | succ attempts hypothesis =>
    by_cases fewer : count < wanted
    · obtain ⟨query, drawn, between, given, ran, further⟩ := created.next
      obtain ⟨after, rest, ends⟩ := hypothesis further (by omega) (by omega)
      refine ⟨after, ?_, ends⟩
      rw [createTables, created.asks_returns, decide_eq_true fewer]
      refine returns_bind.2 ⟨query, drawn, given, returns_bind.2 ⟨(), between, ?_, rest⟩⟩
      exact returns_map.2 ⟨true, ran, rfl⟩
    · obtain rfl : count = wanted := by omega
      refine ⟨bench, ?_, created⟩
      rw [createTables, created.asks_returns, decide_eq_false fewer]
      exact returns_pure.2 ⟨rfl, rfl⟩

/-- So ten attempts for each table are enough to create them all. -/
theorem createAll_returns (created : bench.Created admin 0) (wanted : Nat) :
    ∃ after, (createAll (.integer wanted)).Returns bench () after ∧ after.Created admin wanted := by
  have enough : wanted ≤ 0 + 10 * wanted := by omega
  obtain ⟨after, returned, ends⟩ := created.createTables_returns (Nat.zero_le wanted) enough
  by_cases some_wanted : 0 < wanted
  · refine ⟨after, ?_, ends⟩
    rw [createAll, created.asks_returns, decide_eq_true some_wanted, attemptsFor_integer]
    exact returns_bind.2 ⟨10 * wanted, bench, returns_use.2 ⟨rfl, rfl⟩, returned⟩
  · obtain rfl : wanted = 0 := by omega
    refine ⟨bench, ?_, created⟩
    rw [createAll, created.asks_returns, decide_eq_false some_wanted]
    exact returns_pure.2 ⟨rfl, rfl⟩

end Created

/-! ## Filling tables -/

/-- The rows that insertions add, each with the name of its table. -/
def insertedRows (inserted : List (String × Query)) : TableRows :=
  inserted.map fun entry => (entry.1, entry.2.row)

/-- Insertions, each with the name of its table, have been set up in between. -/
structure Filled (bench after : Bench) (admin : Session) (database : Database)
    (inserted : List (String × Query)) : Prop where
  /-- Their rows have been added. -/
  ready : after.Administered admin (database.adding (insertedRows inserted))
  /-- The known tables are as they were. -/
  schema : after.schema = bench.schema
  /-- They have joined the setup log. -/
  log : after.setupLog = bench.setupLog ++ inserted.map Prod.snd

theorem Filled.trans {between : Bench} {first second : List (String × Query)}
    (one : Filled bench between admin database first)
    (two : Filled between after admin (database.adding (insertedRows first)) second) :
    Filled bench after admin database (first ++ second) where
  ready := by
    rw [insertedRows, List.map_append, Database.adding_append]
    exact two.ready
  schema := two.schema.trans one.schema
  log := by rw [two.log, one.log, List.map_append, List.append_assoc]

/-- Rows can be added to the table: it is known by a plain name and has columns, whose names are texts. -/
structure Fillable (database : Database) (table : Table) : Prop where
  /-- The table is known. -/
  knows : database.Knows table.name
  /-- Its name is plain. -/
  plain : IsPlainName table.name
  /-- It has columns. -/
  columns : table.columns ≠ []
  /-- Their names are texts. -/
  worded : ∀ column ∈ table.columns, column.entry = none

/-- Rows that have been added to known tables are no hindrance. -/
theorem Fillable.adding {table : Table} {rows : TableRows} (fillable : Fillable database table)
    (known : ∀ entry ∈ rows, database.Knows entry.1) : Fillable (database.adding rows) table :=
  { fillable with knows := (Database.knows_adding known table.name).2 fillable.knows }

namespace Administered

/-- An insertion into a table is drawn and set up. -/
theorem insert_returns (ready : bench.Administered admin database) {table : Table}
    (fillable : Fillable database table) :
    ∃ statement drawn after,
      (Task.attempt (DataStatement.drawInsert table)).Returns bench statement drawn ∧
        (runSetup statement.query).Returns drawn true after ∧ statement.query.Inserts table.name ∧
          Filled bench after admin database [(table.name, statement.query)] := by
  obtain ⟨statement, drawn, returned, redrawn, inserts, keeps⟩ :=
    @drawInsert_returns bench table fillable.columns fillable.worded
  have drafted := inserts
  obtain ⟨columns, rows, said⟩ := drafted
  have means := DataStatement.command_insert fillable.plain columns rows
  have done : database.setUp (DataStatement.render (.insert table.name columns rows)) =
      some (database.add table.name statement.query.row) := by
    unfold Database.setUp
    simp only [means, if_pos fillable.knows, Query.row, said]
  have still := ready.of_same redrawn.beside.server redrawn.beside.admin
  have known : if statement.query.changesSchema then
      (database.add table.name statement.query.row).Tells drawn.schema
      else drawn.schema = drawn.schema := by
    rw [keeps, if_neg Bool.false_ne_true]
  obtain ⟨after, ran, made, same, logged⟩ :=
    still.runSetup_returns said (.inr ⟨_, means⟩) done known
  have before : drawn.setupLog = bench.setupLog := congrArg (·.2.1) redrawn.beside.plan
  refine ⟨statement, drawn, after, returned, ran, inserts, made, same.trans redrawn.schema, ?_⟩
  rw [logged, before]
  rfl

/-- As many insertions as asked for are set up. -/
theorem fillTable_returns (ready : bench.Administered admin database) {table : Table}
    (fillable : Fillable database table) (count : Nat) :
    ∃ (queries : List Query) (after : Bench), (fillTable table count).Returns bench () after ∧
      Filled bench after admin database (queries.map (table.name, ·)) ∧ queries.length = count ∧
        ∀ query ∈ queries, query.Inserts table.name := by
  induction count generalizing bench database with
  | zero =>
    refine ⟨[], bench, returns_pure.2 ⟨rfl, rfl⟩, ⟨ready, rfl, ?_⟩, rfl, nofun⟩
    exact (List.append_nil _).symm
  | succ count hypothesis =>
    obtain ⟨statement, drawn, between, given, ran, inserts, filled⟩ := ready.insert_returns fillable
    have known : ∀ entry ∈ insertedRows [(table.name, statement.query)], database.Knows entry.1 := by
      intro entry inside
      rw [List.mem_singleton.1 inside]
      exact fillable.knows
    obtain ⟨queries, after, rest, further, many, all⟩ :=
      hypothesis filled.ready (fillable.adding known)
    refine ⟨statement.query :: queries, after, ?_, filled.trans further, congrArg Nat.succ many, ?_⟩
    · rw [fillTable]
      refine returns_bind.2 ⟨statement, drawn, given, returns_bind.2 ⟨(), between, ?_, rest⟩⟩
      exact returns_map.2 ⟨true, ran, rfl⟩
    · exact List.forall_mem_cons.2 ⟨inserts, all⟩

/-- Tables with different names are filled one after the other. -/
theorem fillTables_returns (ready : bench.Administered admin database) {tables : List Table}
    (different : (tables.map Table.name).Nodup)
    (fillable : ∀ table ∈ tables, Fillable database table) (count : Nat) :
    ∃ (inserts : String → List Query) (after : Bench),
      (fillTables (.integer count) tables).Returns bench () after ∧
        Filled bench after admin database
          ((tables.map Table.name).flatMap fun name => (inserts name).map (name, ·)) ∧
        ∀ name ∈ tables.map Table.name,
          (inserts name).length = count ∧ ∀ query ∈ inserts name, query.Inserts name := by
  induction tables generalizing bench database with
  | nil =>
    refine ⟨fun _ => [], bench, returns_pure.2 ⟨rfl, rfl⟩, ⟨ready, rfl, ?_⟩, nofun⟩
    exact (List.append_nil _).symm
  | cons table tables hypothesis =>
    obtain ⟨apart, others⟩ := List.nodup_cons.1 different
    have first := fillable table List.mem_cons_self
    obtain ⟨queries, between, returned, filled, many, all⟩ := ready.fillTable_returns first count
    have known : ∀ entry ∈ insertedRows (queries.map (table.name, ·)), database.Knows entry.1 := by
      intro entry inside
      simp only [insertedRows, List.map_map, List.mem_map, Function.comp_apply] at inside
      obtain ⟨query, _, rfl⟩ := inside
      exact first.knows
    obtain ⟨inserts, after, rest, further, each⟩ := hypothesis filled.ready others fun other member =>
      (fillable other (List.mem_cons_of_mem _ member)).adding known
    let combined (name : String) : List Query := if name = table.name then queries else inserts name
    have here : combined table.name = queries := if_pos rfl
    have there : ∀ name ∈ tables.map Table.name, combined name = inserts name := by
      intro name member
      refine if_neg ?_
      rintro rfl
      exact apart member
    have lines : (tables.map Table.name).flatMap (fun name => (combined name).map (name, ·)) =
        (tables.map Table.name).flatMap fun name => (inserts name).map (name, ·) :=
      List.flatMap_congr fun name member => by rw [there name member]
    refine ⟨combined, after, ?_, ?_, ?_⟩
    · rw [fillTables]
      refine returns_bind.2 ⟨count, bench, returns_use.2 ⟨rfl, rfl⟩, ?_⟩
      exact returns_bind.2 ⟨(), between, returned, rest⟩
    · rw [List.map_cons, List.flatMap_cons, here, lines]
      exact filled.trans further
    · intro name member
      rcases List.mem_cons.1 member with rfl | behind
      · rw [here]
        exact ⟨many, all⟩
      · rw [there name behind]
        exact each name behind

end Administered

end Bench

end SerialCheck

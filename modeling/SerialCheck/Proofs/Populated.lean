import SerialCheck.Proofs.Populated.Stages
import SerialCheck.Proofs.RowTexts

/-!
# The generated database

On a healthy bench the database is replaced by exactly the tables that are wanted, each with as many rows as
are wanted, and the setup log says how (`Bench.populates_generateDatabase`). On any bench the number of
tables that are asked for is bounded.
-/
namespace SerialCheck

open SerialCheck.Task

/-! ## Opening the session for setup statements -/

/-- A calm server that refuses no connection grants a session. -/
theorem Session.connect_grants {server : Server} (calm : server.Calm) (unrefused : server.refusals = [])
    {timeout : Value}
    (writable : timeout.isFilled = true → ∃ text, lockTimeoutText timeout = .ok text)
    (address label : String) :
    ∃ session after, connect address label timeout server = (.ok session, after) := by
  obtain ⟨number, reached, opened⟩ : ∃ number reached,
      server.connect address = (.ok number, reached) := by
    have none (number : Nat) : (server.note number (.connect address)).refusals.lookup number = none :=
      congrArg (List.lookup number) unrefused
    unfold Server.connect
    simp only [none]
    exact ⟨_, _, rfl⟩
  obtain ⟨_, _, rules, present, _⟩ := Server.connect_ok opened
  have still : reached.Calm := by
    rw [Server.Calm, rules]
    exact calm
  unfold connect
  rw [opened]
  dsimp only
  split
  · exact ⟨_, _, rfl⟩
  next filled =>
    obtain ⟨text, timed⟩ := writable (by simpa using filled)
    obtain ⟨rest, rfl⟩ := exists_of_lockTimeoutText timed
    obtain ⟨delay, set, answered, _⟩ := Server.execute_became still present ("SET " ++ rest)
    have made : reached.engineAfter {} ("SET " ++ rest) =
        (.ok none, ⟨reached.database, none⟩) := Engine.execute_set reached.database rest
    rw [made, mapError_ok] at answered
    rw [timed]
    dsimp only
    rw [answered]
    exact ⟨_, _, rfl⟩

/-- A catalog whose columns have types that are texts can be read. -/
theorem Database.Typed.readable {database : Database} (typed : database.Typed) :
    ∃ schema, database.Tells schema := by
  obtain ⟨entries, rows, all⟩ := typed.catalog
  have start : Schema.Named {} := nofun
  obtain ⟨schema, read, named⟩ := Bench.foldlM_addRow_ok start all
  refine ⟨schema, ?_, named.disorder?⟩
  rw [Bench.schemaOf, rows]
  exact read

namespace Bench

/-- The rules of the server only delay texts, the session for setup statements is there or can be opened, and
has no transaction, the tables can be dropped, and those to come have columns that are described by texts. -/
structure Healthy (bench : Bench) : Prop where
  /-- The rules only delay texts. -/
  calm : bench.server.Calm
  /-- No connection is refused. -/
  refusals : bench.server.refusals = []
  /-- The session for setup statements has no transaction open. -/
  idle : bench.Idle
  /-- The address of the database is a text. -/
  address : ∃ address, bench.settings.connection = .text address
  /-- If a lock timeout is set, it can be written. -/
  lockTimeout : bench.settings.lockTimeout.isFilled = true →
    ∃ text, Session.lockTimeoutText bench.settings.lockTimeout = .ok text
  /-- The tables have columns and plain names, those to come have columns. -/
  orderly : bench.server.database.Orderly
  /-- The types of the columns are texts. -/
  typed : bench.server.database.Typed
  /-- The columns of tables to come have names that are texts. -/
  worded : ∀ layout ∈ bench.server.database.layouts, ∀ column ∈ layout.2, column.Worded

variable {bench after : Bench}

/-- The session for setup statements is at hand on a healthy bench. -/
theorem Healthy.adminSession_returns (healthy : bench.Healthy) :
    ∃ admin after, adminSession.Returns bench admin after := by
  have opened : ∃ admin after, adminSession.openAdmin.Returns bench admin after := by
    obtain ⟨address, named⟩ := healthy.address
    obtain ⟨result, server, journal, asked, ended⟩ := connect_named named "admin"
    obtain ⟨session, _, granted⟩ := Session.connect_grants healthy.calm healthy.refusals
      healthy.lockTimeout address "admin"
    rw [granted] at asked
    cases asked
    refine ⟨session, { bench with server, journal, admin := some session },
      returns_bind.2 ⟨session, _, ended, ?_⟩⟩
    exact returns_bind.2 ⟨(), _, returns_modify.2 rfl, returns_pure.2 ⟨rfl, rfl⟩⟩
  simp only [adminSession, returns_get_bind]
  split
  next session _ =>
    by_cases closed : session.isClosed bench.server = true
    · simp only [if_pos closed]
      exact opened
    · simp only [if_neg closed]
      exact ⟨session, bench, returns_pure.2 ⟨rfl, rfl⟩⟩
  next => exact opened

/-- The generation of a database first asks for the session for setup statements. -/
theorem generateDatabase_eq : ∃ next : Session → Task Unit, generateDatabase = adminSession >>= next := by
  unfold generateDatabase dropTables updateSchema
  simp only [bind_assoc]
  exact ⟨_, rfl⟩

/-! ## The stages -/

/-- A healthy bench is emptied once the session for setup statements is at hand. -/
theorem Healthy.empty_returns {admin : Session} (healthy : bench.Healthy) {opened : Bench}
    (ready : opened.Administered admin bench.server.database) :
    ∃ dropped, dropTables.Returns opened () dropped ∧
      { dropped with setupLog := [] }.Created admin 0 ∧ dropped.settings = opened.settings := by
  obtain ⟨known, tells⟩ := healthy.typed.readable
  obtain ⟨dropped, last, returned, empty, same, spares⟩ := ready.dropTables_returns healthy.orderly tells
  have schema : dropped.schema = {} := by
    simp only [dropTables, returns_bind, returns_get, returns_modify] at returned
    obtain ⟨_, _, _, _, _, _, _, _, _, rfl⟩ := returned
    rfl
  have layouts : ∀ layout ∈ last.layouts, layout.2 ≠ [] ∧ ∀ column ∈ layout.2, column.Worded := by
    rw [same.layouts]
    exact fun layout member => ⟨healthy.orderly.layouts layout member, healthy.worded layout member⟩
  obtain ⟨numbered, told⟩ := Database.Numbered.zero same.tables layouts
  rw [← schema] at told
  exact ⟨dropped, returned, ⟨⟨last, empty.of_same rfl rfl, numbered, told⟩, .nil⟩, spares.settings⟩

/-- Tables that have been created can be filled. -/
theorem fillable_of_numbered {count : Nat} {database : Database} (numbered : database.Numbered count)
    (tells : database.Tells bench.schema) :
    ∀ table ∈ bench.schema.sorted, Fillable database table := by
  have lists := numbered.lists tells
  intro table member
  have listed : table ∈ bench.schema.tables := (sort_perm _ _).subset member
  obtain ⟨number, before, name⟩ := (lists.names table.name).1 (Schema.mem_names.2 ⟨table, listed, rfl⟩)
  exact ⟨(numbered.knows_iff _).2 ⟨number, before, name⟩, name ▸ Schema.isPlainName_tableName number,
    lists.distinct.columns table listed, lists.distinct.worded table listed⟩

end Bench

/-! ## The rows of one table -/

/-- Among the rows of insertions into other tables there is none of a table. -/
theorem rowsFor_inserted_other {names : List String} (inserts : String → List Query) {name : String}
    (other : name ∉ names) :
    rowsFor name (Bench.insertedRows (names.flatMap fun name => (inserts name).map (name, ·))) = [] := by
  rw [rowsFor, List.map_eq_nil_iff, List.filter_eq_nil_iff]
  intro entry inside
  simp only [Bench.insertedRows, List.mem_map, List.mem_flatMap] at inside
  obtain ⟨_, ⟨known, listed, query, _, rfl⟩, rfl⟩ := inside
  rw [beq_iff_eq]
  rintro rfl
  exact other listed

/-- All rows of insertions into a table are rows of that table. -/
theorem rowsFor_inserted_own (queries : List Query) (name : String) :
    rowsFor name (Bench.insertedRows (queries.map (name, ·))) = queries.map Query.row := by
  have all : ∀ entry ∈ queries.map fun query => (name, query.row), (entry.1 == name) = true := by
    intro entry inside
    obtain ⟨query, _, rfl⟩ := List.mem_map.1 inside
    exact beq_self_eq_true name
  rw [Bench.insertedRows, List.map_map]
  show ((queries.map fun query => (name, query.row)).filter (·.1 == name)).map Prod.snd = _
  rw [List.filter_eq_self.2 all, List.map_map]
  rfl

/-- Where different tables are filled one after the other, each gets the rows of its insertions. -/
theorem rowsFor_inserted {names : List String} (different : names.Nodup) (inserts : String → List Query)
    {name : String} (member : name ∈ names) :
    rowsFor name (Bench.insertedRows (names.flatMap fun name => (inserts name).map (name, ·))) =
      (inserts name).map Query.row := by
  obtain ⟨front, back, rfl⟩ := List.append_of_mem member
  have apart : name ∉ front ∧ name ∉ back := by
    have once := (List.nodup_middle.1 different)
    rw [List.nodup_cons, List.mem_append, not_or] at once
    exact once.1
  have parts (first second : List (String × Query)) : Bench.insertedRows (first ++ second) =
      Bench.insertedRows first ++ Bench.insertedRows second := List.map_append
  rw [List.flatMap_append, List.flatMap_cons, parts, parts, rowsFor_append, rowsFor_append,
    rowsFor_inserted_other inserts apart.1, rowsFor_inserted_other inserts apart.2, rowsFor_inserted_own,
    List.nil_append, List.append_nil]

/-- Tables with the same names and columns have the same names. -/
theorem Database.names_of_heads {database other : Database}
    (heads : other.tables.map StoredTable.head = database.tables.map StoredTable.head) :
    other.tables.map StoredTable.name = database.tables.map StoredTable.name := by
  have firsts := congrArg (List.map Prod.fst) heads
  rwa [List.map_map, List.map_map] at firsts

/-- A table is found under its name if the names of the tables are different. -/
theorem Database.table?_of_mem {database : Database}
    (different : (database.tables.map StoredTable.name).Nodup) {table : StoredTable}
    (member : table ∈ database.tables) : database.table? table.name = some table := by
  cases found : database.table? table.name with
  | none =>
    have unknown := List.find?_eq_none.1 found table member
    exact absurd (beq_self_eq_true _) unknown
  | some other =>
    have inside : other ∈ database.tables := List.mem_of_find?_eq_some found
    rw [List.inj_on_of_nodup_map different inside member (name_of_table? found)]

namespace Bench

/-- The database and the schema have the first tables, each with so many rows, and the setup log defines them
in order and then fills them one after the other. -/
structure Populated (bench : Bench) (count inserts : Nat) : Prop where
  /-- The tables of the database. -/
  tables : bench.server.database.tables.map StoredTable.name = (List.range count).map Schema.tableName
  /-- The known tables are what the catalog tells. -/
  tells : bench.server.database.Tells bench.schema
  /-- Their names are the same, in ascending order. -/
  names : bench.schema.names = sortTexts ((List.range count).map Schema.tableName)
  /-- The setup log, and the rows that it makes. -/
  log : ∃ (created : List Query) (filling : String → List Query),
    bench.setupLog = created ++ bench.schema.names.flatMap filling ∧
      List.Forall₂ Query.Defines created ((List.range count).map Schema.tableName) ∧
        ∀ table ∈ bench.server.database.tables, table.rows = (filling table.name).map Query.row ∧
          (filling table.name).length = inserts ∧
            ∀ query ∈ filling table.name, query.Inserts table.name

variable {bench after : Bench} {admin : Session} {count inserts : Nat}

/-- Tables that were created and then filled one after the other populate the database. -/
theorem Filled.populated {database : Database} {filling : String → List Query}
    (filled : Filled bench after admin database
      (bench.schema.names.flatMap fun name => (filling name).map (name, ·)))
    (numbered : database.Numbered count) (tells : database.Tells bench.schema)
    (created : List.Forall₂ Query.Defines bench.setupLog ((List.range count).map Schema.tableName))
    (each : ∀ name ∈ bench.schema.names,
      (filling name).length = inserts ∧ ∀ query ∈ filling name, query.Inserts name) :
    after.Populated count inserts := by
  have lists := numbered.lists tells
  have sorted : bench.schema.names = sortTexts ((List.range count).map Schema.tableName) := by
    rw [lists.distinct.named.names_eq, sortTexts_eq_iff]
    exact lists.perm
  have different : ((List.range count).map Schema.tableName).Nodup :=
    List.nodup_range.map Schema.tableName_injective
  have same := filled.ready.database
  generalize added : insertedRows (bench.schema.names.flatMap fun name => (filling name).map (name, ·)) =
    rows at same
  have known : ∀ entry ∈ rows, database.Knows entry.1 := by
    intro entry inside
    rw [← added] at inside
    simp only [insertedRows, List.mem_map, List.mem_flatMap] at inside
    obtain ⟨_, ⟨name, listed, query, _, rfl⟩, rfl⟩ := inside
    exact (numbered.knows_iff name).2 ((lists.names name).1 listed)
  obtain ⟨heads, _⟩ := Database.columns_adding known
  have names := (Database.names_of_heads heads).trans numbered.names
  refine ⟨same ▸ names, ?_, ?_, bench.setupLog, filling, ?_, created, ?_⟩
  · rw [same, filled.schema, Database.Tells, Database.catalog_congr heads]
    exact tells
  · rw [filled.schema]
    exact sorted
  · rw [filled.log, filled.schema, List.map_flatMap]
    simp only [List.map_map, Function.comp_def, List.map_id']
  · rw [same]
    intro table member
    have found := Database.table?_of_mem (names ▸ different) member
    have listed : table.name ∈ bench.schema.names := by
      rw [sorted, sortTexts, (sort_perm _ _).mem_iff, ← names]
      exact List.mem_map_of_mem member
    rw [Database.table?_adding known] at found
    obtain ⟨before, there, whole⟩ := Option.map_eq_some_iff.1 found
    have empty : before.rows = [] := numbered.empty before (List.mem_of_find?_eq_some there)
    have stored : table.rows = before.rows ++ rowsFor table.name rows :=
      congrArg StoredTable.rows whole.symm
    refine ⟨?_, each table.name listed⟩
    rw [stored, empty, List.nil_append, ← added]
    exact rowsFor_inserted lists.nodup_names filling listed

/-- A record in the journal changes nothing about that. -/
theorem Populated.recorded (populated : bench.Populated count inserts)
    (journal : History (Level × String)) : { bench with journal }.Populated count inserts where
  tables := populated.tables
  tells := populated.tells
  names := populated.names
  log := populated.log

/-- On a healthy bench a database is generated with as many tables and rows as wanted. -/
theorem Healthy.generateDatabase_returns (healthy : bench.Healthy)
    (tables : bench.settings.tableCount = .integer count)
    (rows : bench.settings.insertsPerTable = .integer inserts) :
    ∃ after, generateDatabase.Returns bench () after ∧ after.Populated count inserts := by
  obtain ⟨admin, opened, granted⟩ := healthy.adminSession_returns
  obtain ⟨ready, spares, _⟩ := adminSession_ready healthy.calm healthy.idle granted
  obtain ⟨dropped, dropping, start, settings⟩ := healthy.empty_returns ready
  obtain ⟨made, creating, created⟩ := start.createAll_returns count
  obtain ⟨database, further, numbered, tells⟩ := created.tables
  obtain ⟨filling, after, returned, filled, each⟩ := further.fillTables_returns
    (numbered.lists tells).nodup_names (fillable_of_numbered numbered tells) inserts
  have populated := filled.populated numbered tells created.log each
  obtain ⟨next, cut⟩ := generateDatabase_eq
  have same : generateDatabase bench = generateDatabase opened := by
    rw [cut, granted.bind_apply, (ready.adminSession_returns.2 ⟨rfl, rfl⟩).bind_apply]
  have kept : dropped.settings = bench.settings := settings.trans spares.settings
  have wanted : dropped.settings.tableCount = .integer count := by rw [kept, tables]
  have each_wanted : dropped.settings.insertsPerTable = .integer inserts := by rw [kept, rows]
  let known := after.schema.tables.length
  let statements := after.setupLog.length
  let journal := after.journal.push
    (.info, s!"Generated database with {known} tables and {statements} init queries")
  refine ⟨{ after with journal }, ?_, populated.recorded journal⟩
  unfold Returns
  rw [same]
  refine returns_bind.2 ⟨(), dropped, dropping, returns_bind.2 ⟨(), _, returns_modify.2 rfl, ?_⟩⟩
  rw [returns_get_bind]
  dsimp only
  rw [wanted, each_wanted]
  refine returns_bind.2 ⟨(), made, creating, returns_get_bind.2 ?_⟩
  refine returns_bind.2 ⟨(), after, returned, returns_get_bind.2 ?_⟩
  exact returns_log.2 rfl

/-- While a database with a number of tables is generated, at most ten times as many are asked for, whatever
becomes of it; and on a healthy bench there are exactly these tables in the end, each with as many rows as
wanted. -/
theorem populates_generateDatabase (tables : bench.settings.tableCount = .integer count) :
    (generateDatabase bench).2.server.creations ≤ bench.server.creations + 10 * count ∧
      (bench.Healthy → ∀ inserts : Nat, bench.settings.insertsPerTable = .integer inserts →
        ∃ after, generateDatabase.Returns bench () after ∧ after.Populated count inserts) :=
  ⟨creates_generateDatabase tables, fun healthy _ rows => healthy.generateDatabase_returns tables rows⟩

end Bench

namespace Sample

/-- A bench over a database with a table that holds a row; created once more, it has two columns. -/
def used : Bench where
  settings := {}
  server := {
    database := {
      tables := [⟨"t1", Database.defaultLayout, [.row [.text "INSERT INTO t1(c0) VALUES (1)"]]⟩]
      layouts := [("t1",
        [⟨.text "c0", .text "text", .text "YES"⟩, ⟨.text "c1", .text "bigint", .text "NO"⟩])] } }
  randomness := ⟨.integer 0, ⟨List.replicate 16 0, ⟨#[], 0⟩⟩, [], [], []⟩

theorem used_healthy : used.Healthy where
  calm := fun _ inside => absurd inside List.not_mem_nil
  refusals := rfl
  idle := fun _ _ _ present => absurd present.symm (Option.some_ne_none _)
  address := ⟨_, rfl⟩
  lockTimeout := nofun
  orderly := by
    refine ⟨fun table member => ?_, fun layout member => ?_⟩
    · rw [List.mem_singleton.1 member]
      exact ⟨List.cons_ne_nil _ _, Schema.isPlainName_tableName 1⟩
    · rw [List.mem_singleton.1 member]
      exact List.cons_ne_nil _ _
  typed := by
    refine ⟨fun table member column held => ?_, fun layout member column held => ?_⟩
    · rw [List.mem_singleton.1 member] at held
      rw [List.mem_singleton.1 held]
      exact ⟨_, rfl⟩
    · rw [List.mem_singleton.1 member] at held
      rcases List.mem_pair.1 held with rfl | rfl <;> exact ⟨_, rfl⟩
  worded := by
    intro layout member column held
    rw [List.mem_singleton.1 member] at held
    rcases List.mem_pair.1 held with rfl | rfl <;> exact ⟨⟨_, rfl⟩, _, rfl⟩

end Sample

open Sample in
/-- The table that was there gives way to two tables, one of them with its name. -/
theorem Bench.populates_generateDatabase_used :
    (generateDatabase used).2.server.creations ≤ 20 ∧
      ∃ after, generateDatabase.Returns used () after ∧ after.Populated 2 5 ∧
        after.server.database.tables.map StoredTable.name = ["t0", "t1"] := by
  obtain ⟨bounded, populated⟩ := @populates_generateDatabase used 2 rfl
  obtain ⟨after, returned, populates⟩ := populated used_healthy 5 rfl
  exact ⟨bounded, after, returned, populates, populates.tables⟩

end SerialCheck

import SerialCheck.Proofs.Isolation.Lockstep
import SerialCheck.Proofs.Setup.Opening

/-!
# Resetting the database

On a server with steady rules that concern neither the query for the catalog nor the statements that drop
the tables, resetting the database empties it (`Bench.dropTables_steady`).
-/
namespace SerialCheck

namespace Scene

variable {admin session : Session} {scene first second third : Scene} {text : String}

/-- Sessions, rules and setup statements stay as they are, but for what the rules have seen. -/
structure Stays (first second : Scene) : Prop where
  /-- The setup statements. -/
  setupLog : second.setupLog = first.setupLog
  /-- The rules. -/
  rules : second.server.rules.map Rule.fresh = first.server.rules.map Rule.fresh
  /-- Open sessions are still open. -/
  sessions : ∀ session : Session, session.IsOpen first.server → session.IsOpen second.server

theorem Stays.refl (scene : Scene) : scene.Stays scene := ⟨rfl, rfl, fun _ opened => opened⟩

theorem Stays.trans (one : first.Stays second) (two : second.Stays third) : first.Stays third where
  setupLog := two.setupLog.trans one.setupLog
  rules := two.rules.trans one.rules
  sessions := fun session opened => two.sessions session (one.sessions session opened)

/-- A text on an open session leaves sessions, rules and setup statements as they are, and the engine acts
on it or does not. -/
theorem send_stays (steady : scene.server.Steady) {number : Nat} {connection : Connection}
    (uses : session.Uses scene.server number connection) (text : String) :
    scene.Stays (scene.send session (.text text)) ∧
      ((scene.send session (.text text)).server.database = scene.server.database ∨
        (scene.send session (.text text)).server.database =
          (scene.server.engineAfter connection text).2.database) := by
  obtain ⟨_, changed, alive, _, replaced⟩ := send_steady steady uses text
  refine ⟨⟨rfl, replaced.rules, fun _ opened => replaced.isOpen alive opened⟩, ?_⟩
  rw [replaced.database, Server.engineThen, Effect.engine]
  cases (scene.server.effect number connection text).acted with
  | true => exact .inr rfl
  | false => exact .inl rfl

/-- A text over the session for setup statements that opens no transaction leaves it idle. -/
theorem Managed.send_idle (managed : scene.Managed admin) (steady : scene.server.Steady)
    (opens : Command.ofText text ≠ .begin) :
    (scene.send admin (.text text)).Managed admin ∧ scene.Stays (scene.send admin (.text text)) ∧
      ((scene.send admin (.text text)).server.database = scene.server.database ∨
        (scene.send admin (.text text)).server.database =
          (Engine.execute ⟨scene.server.database, none⟩ text).2.database) := by
  obtain ⟨number, connection, uses, idle⟩ := managed.idle
  obtain ⟨_, changed, alive, work, replaced⟩ := send_steady steady uses text
  obtain ⟨stays, database⟩ := send_stays steady uses text
  have made : scene.server.engineAfter connection text =
      Engine.execute ⟨scene.server.database, none⟩ text := by
    rw [Server.engineAfter, idle]
  have still : (Engine.execute ⟨scene.server.database, none⟩ text).2.work = none :=
    Engine.execute_idle rfl opens
  rw [Server.engineThen, Effect.engine, made, idle] at work
  rw [made] at database
  refine ⟨⟨managed.session, number, changed, uses.of_changed_self replaced alive, work.trans ?_⟩,
    stays, database⟩
  split
  · exact still
  · rfl

/-- A text that the engine answers over the session for setup statements, unless a rule concerns it. -/
theorem Managed.send_left (managed : scene.Managed admin) (steady : scene.server.Steady)
    (left : scene.server.Leaves text) {rows : Option Rows} {later : Database}
    (answered : Engine.execute ⟨scene.server.database, none⟩ text = (.ok rows, ⟨later, none⟩)) :
    (scene.reply admin (.text text)).result = .ok { rows } ∧
      (scene.send admin (.text text)).Managed admin ∧
        scene.Stays (scene.send admin (.text text)) ∧
          (scene.send admin (.text text)).server.database = later := by
  obtain ⟨number, connection, uses, idle⟩ := managed.idle
  have made : scene.server.engineAfter connection text = (.ok rows, ⟨later, none⟩) := by
    rw [← answered, ← idle]
    rfl
  obtain ⟨replied, changed, alive, work, replaced⟩ := send_steady steady uses text
  rw [left.engineThen_eq, made] at work replaced
  rw [left.effect_eq, made] at replied
  refine ⟨?_, ⟨managed.session, number, changed, uses.of_changed_self replaced alive, work⟩,
    (send_stays steady uses text).1, replaced.database⟩
  obtain ⟨record, settled⟩ := Session.replyOf_text (.whole 0) admin.label text { rows } rfl
  rw [replied]
  exact congrArg Reply.result settled

end Scene

namespace Session

/-- A session that is opened over a steady server has an idle connection of its own. -/
theorem connect_steady {server after : Server} {address label : String} {timeout : Value}
    {session : Session} (steady : server.Steady)
    (connected : connect address label timeout server = (.ok session, after)) :
    after.rules.map Rule.fresh = server.rules.map Rule.fresh ∧ after.database = server.database ∧
      (∃ number connection, session.Uses after number connection ∧ connection.work = none) ∧
        ∀ other : Session, other.IsOpen server →
          other.connection ≠ session.connection ∧ other.IsOpen after := by
  unfold connect at connected
  split at connected
  · cases connected
  next number reached opened =>
    obtain ⟨_, database, rules, present, others⟩ := Server.connect_ok opened
    have still : reached.Steady := by
      rw [Server.Steady, rules]
      exact steady
    have fresh : ∀ label, Uses ⟨some number, label⟩ reached number {} :=
      fun _ => ⟨rfl, present, rfl⟩
    have apart : ∀ other : Session, other.IsOpen server →
        other.connection ≠ some number ∧ other.IsOpen reached := by
      rintro other ⟨place, connection, uses⟩
      obtain ⟨different, kept⟩ := others place connection uses.present
      refine ⟨fun same => different ?_, place, connection, uses.named, kept, uses.alive⟩
      exact Option.some.inj (uses.named.symm.trans same)
    split at connected
    · cases connected
      exact ⟨by rw [rules], database, ⟨number, {}, fresh label, rfl⟩, apart⟩
    · split at connected
      · cases connected
      next text timed =>
        obtain ⟨rest, rfl⟩ := exists_of_lockTimeoutText timed
        obtain ⟨set, executed, changed⟩ :=
          Server.execute_steady still present ("SET " ++ rest)
        have made : reached.engineThen number {} ("SET " ++ rest) = ⟨reached.database, none⟩ := by
          have answered : reached.engineAfter {} ("SET " ++ rest) =
              (.ok none, ⟨reached.database, none⟩) := Engine.execute_set reached.database rest
          rw [Server.engineThen, Effect.engine, answered]
          split <;> rfl
        rw [made] at changed
        rw [executed] at connected
        split at connected
        · cases connected
        next rows _ _ same =>
          simp only [Prod.mk.injEq] at same
          obtain ⟨_, _, rfl⟩ := same
          cases connected
          refine ⟨by rw [changed.rules, rules], changed.database.trans database,
            ⟨number, _, (fresh label).of_changed_self changed rfl, rfl⟩, fun other opened => ?_⟩
          obtain ⟨different, kept⟩ := apart other opened
          exact ⟨different, changed.isOpen rfl kept⟩

end Session

namespace Bench

open SerialCheck.Task

variable {bench after : Bench} {admin : Session} {text : String}

/-- Once there is a session for setup statements it is idle, and the sessions that keep from it have other
connections. -/
theorem adminSession_steady (steady : bench.server.Steady) (idle : bench.Idle)
    (returned : adminSession.Returns bench admin after) :
    after.scene.Managed admin ∧ bench.scene.Stays after.scene ∧
      after.server.database = bench.server.database ∧
        ∀ session : Session, session.IsOpen bench.server → bench.KeepsFrom session →
          session.connection ≠ admin.connection := by
  rcases adminSession_cases returned with
    ⟨present, rfl, number, connection, uses⟩ | ⟨address, server, reached, scene, _⟩
  · refine ⟨⟨present, number, connection, uses, idle admin number connection present uses⟩,
      .refl _, rfl, fun _ _ keeps => keeps admin present⟩
  · obtain ⟨rules, database, fresh, others⟩ := Session.connect_steady steady reached
    have made : after.server = server := congrArg Scene.server scene
    rw [scene, made]
    exact ⟨⟨rfl, fresh⟩, ⟨rfl, rules, fun other opened => (others other opened).2⟩, database,
      fun other opened _ => (others other opened).1⟩

/-- The known tables are read from the catalog if no rule concerns the query. -/
theorem updateSchema_steady (managed : bench.scene.Managed admin)
    (steady : bench.server.Steady) (left : bench.server.Leaves schemaQuery) :
    updateSchema.Returns bench () after ↔
      ∃ schema, bench.server.database.Tells schema ∧ after = bench.afterReading admin schema :=
  updateSchema_returns_of_reply (adminSession_apply managed)
    (managed.send_left steady left (Engine.execute_schemaQuery _)).1

/-- Every table is dropped that is asked for by a plain name, if no rule concerns the statements that drop
them. -/
theorem dropEach_steady {names : List String} (managed : bench.scene.Managed admin)
    (steady : bench.server.Steady) (plain : ∀ name ∈ names, IsPlainName name)
    (left : ∀ name ∈ names, bench.server.Leaves (dropText name)) :
    ∃ after, (dropEach names).Returns bench () after ∧ after.scene.Managed admin ∧
      bench.scene.Stays after.scene ∧
        after.server.database = names.foldl Database.drop bench.server.database := by
  induction names generalizing bench with
  | nil => exact ⟨bench, returns_pure.2 ⟨rfl, rfl⟩, managed, .refl _, rfl⟩
  | cons name names hypothesis =>
    have dropped : Engine.execute ⟨bench.server.database, none⟩ (dropText name) =
        (.ok none, ⟨bench.server.database.drop name, none⟩) := by
      rw [Engine.execute, Command.ofText_dropText (plain name List.mem_cons_self)]
      rfl
    obtain ⟨replied, still, stays, database⟩ :=
      managed.send_left steady (left name List.mem_cons_self) dropped
    have sent : (bench.afterSending admin (.text (dropText name))).scene.Managed admin := still
    obtain ⟨after, returned, ends, kept, emptied⟩ := hypothesis sent (steady.of_rules stays.rules)
      (fun other member => plain other (List.mem_cons_of_mem _ member))
      (fun other member => (left other (List.mem_cons_of_mem _ member)).of_rules stays.rules)
    refine ⟨after, ?_, ends, stays.trans kept, ?_⟩
    · rw [dropEach, setup_returns_of_reply (adminSession_apply managed) replied]
      exact returned
    · rw [emptied]
      exact congrArg (names.foldl Database.drop) database

/-- The database is emptied if its catalog can be read and no rule concerns the query for it or the
statements that drop its tables. -/
theorem dropTables_steady (managed : bench.scene.Managed admin)
    (steady : bench.server.Steady) (orderly : bench.server.database.Orderly)
    (catalog : bench.server.Leaves schemaQuery)
    (drops : ∀ table ∈ bench.server.database.tables, bench.server.Leaves (dropText table.name))
    {known : Schema} (tells : bench.server.database.Tells known) :
    ∃ after, dropTables.Returns bench () after ∧ after.scene.Managed admin ∧
      bench.scene.Stays after.scene ∧ after.schema = {} ∧
        bench.server.database.emptied.Matches after.server.database := by
  have listed : ∀ name, name ∈ known.names ↔
      ∃ table ∈ bench.server.database.tables, table.name = name ∧ table.columns ≠ [] :=
    mem_names_schemaOf tells.1
  obtain ⟨_, sent, stays, same⟩ :=
    managed.send_left steady catalog (Engine.execute_schemaQuery _)
  have read := (updateSchema_steady managed steady catalog).2 ⟨known, tells, rfl⟩
  have left : ∀ name ∈ known.names, IsPlainName name ∧
      (bench.afterReading admin known).server.Leaves (dropText name) := by
    intro name member
    obtain ⟨table, inside, rfl, _⟩ := (listed name).1 member
    exact ⟨(orderly.tables table inside).2, (drops table inside).of_rules stays.rules⟩
  have all : ∀ table ∈ bench.server.database.tables, table.name ∈ known.names := fun table inside =>
    (listed table.name).2 ⟨table, inside, rfl, (orderly.tables table inside).1⟩
  have still : (bench.afterReading admin known).scene.Managed admin := ⟨sent.session, sent.idle⟩
  have begun : bench.scene.Stays (bench.afterReading admin known).scene :=
    ⟨stays.setupLog, stays.rules, stays.sessions⟩
  obtain ⟨dropped, returned, ends, kept, emptied⟩ :=
    dropEach_steady still (steady.of_rules stays.rules) (fun name member => (left name member).1)
      (fun name member => (left name member).2)
  have both := begun.trans kept
  refine ⟨{ dropped with schema := {} }, ?_, ⟨ends.session, ends.idle⟩,
    ⟨both.setupLog, both.rules, both.sessions⟩, rfl, ?_⟩
  · simp only [dropTables, returns_bind, returns_get, returns_modify]
    exact ⟨(), _, read, _, _, ⟨rfl, rfl⟩, (), dropped, returned, rfl⟩
  · have unread : (bench.afterReading admin known).server.database = bench.server.database := same
    show bench.server.database.emptied.Matches dropped.server.database
    rw [emptied, unread]
    exact Database.matches_foldl_drop all

/-- Dropping the tables first asks for the session for setup statements. -/
theorem dropTables_eq : ∃ next : Session → Task Unit, dropTables = adminSession >>= next := by
  unfold dropTables updateSchema
  simp only [bind_assoc]
  exact ⟨_, rfl⟩

/-- Where dropping the tables returns, the database is empty, and the session for setup statements is there
and idle. -/
theorem dropTables_emptied (steady : bench.server.Steady) (idle : bench.Idle)
    (orderly : bench.server.database.Orderly) (catalog : bench.server.Leaves schemaQuery)
    (drops : ∀ table ∈ bench.server.database.tables, bench.server.Leaves (dropText table.name))
    (returned : dropTables.Returns bench () after) :
    ∃ admin, after.scene.Managed admin ∧ bench.scene.Stays after.scene ∧ after.schema = {} ∧
      bench.server.database.emptied.Matches after.server.database ∧
        ∀ session : Session, session.IsOpen bench.server → bench.KeepsFrom session →
          session.connection ≠ admin.connection := by
  obtain ⟨next, cut⟩ := dropTables_eq
  obtain ⟨admin, fresh, opened, rest⟩ := returns_bind.1 (cut ▸ returned)
  obtain ⟨managed, opens, same, apart⟩ := adminSession_steady steady idle opened
  have again : dropTables.Returns fresh () after := by
    rw [cut]
    exact returns_bind.2 ⟨admin, fresh, adminSession_apply managed, rest⟩
  have still := steady.of_rules opens.rules
  have catalog := catalog.of_rules opens.rules
  obtain ⟨known, tells⟩ : ∃ known, fresh.server.database.Tells known := by
    simp only [dropTables, returns_bind, updateSchema_steady managed still catalog] at again
    obtain ⟨_, _, ⟨known, tells, _⟩, _⟩ := again
    exact ⟨known, tells⟩
  obtain ⟨_, dropped, emptied, cleared, blank, nothing⟩ :=
    dropTables_steady managed still (same ▸ orderly) catalog
      (fun table member => (drops table (same ▸ member)).of_rules opens.rules) tells
  obtain ⟨_, rfl⟩ := again.unique dropped
  exact ⟨admin, emptied, opens.trans cleared, blank, same ▸ nothing, apart⟩

/-- Reading the catalog leaves the database, sessions, rules and setup statements as they are. -/
theorem updateSchema_stays (managed : bench.scene.Managed admin) (steady : bench.server.Steady)
    (left : bench.server.Leaves schemaQuery)
    (returned : updateSchema.Returns bench () after) :
    after.scene.Managed admin ∧ bench.scene.Stays after.scene ∧
      after.server.database = bench.server.database ∧
        after.server.database.Tells after.schema := by
  obtain ⟨_, sent, stays, same⟩ := managed.send_left steady left (Engine.execute_schemaQuery _)
  obtain ⟨schema, tells, rfl⟩ := (updateSchema_steady managed steady left).1 returned
  have unread : (bench.afterReading admin schema).server.database = bench.server.database := same
  exact ⟨⟨sent.session, sent.idle⟩, ⟨stays.setupLog, stays.rules, stays.sessions⟩, unread,
    unread ▸ tells⟩

end Bench

/-- The setup statement creates the table. -/
def Query.Creates (query : Query) (name : String) : Prop :=
  ∃ text, query.text = .text text ∧ Command.ofText text = .create name

namespace Database

variable {database later : Database} {text : String}

/-- Once its tables are dropped an orderly database is still orderly. -/
theorem Orderly.of_emptied (orderly : database.Orderly) (nothing : database.emptied.Matches later) :
    later.Orderly where
  tables := by
    intro table member
    rw [nothing.tables] at member
    cases member
  layouts := nothing.layouts ▸ orderly.layouts

/-- A setup statement leaves the columns of tables to come, and the only new table is the one that it
creates. -/
theorem tables_setUp (done : database.setUp text = some later) :
    later.layouts = database.layouts ∧ ∀ table ∈ later.tables,
      (∃ old ∈ database.tables, old.name = table.name) ∨
        Command.ofText text = .create table.name := by
  unfold setUp at done
  split at done
  next name created =>
    split at done
    · cases done
    · cases done
      refine ⟨rfl, fun table member => ?_⟩
      rcases List.mem_append.1 member with known | new
      · exact .inl ⟨table, known, rfl⟩
      · rw [List.mem_singleton.1 new]
        exact .inr created
  next name written =>
    split at done
    next known =>
      cases done
      obtain ⟨heads, layouts⟩ := columns_add known (.row [.text text])
      refine ⟨layouts, fun table member => .inl ?_⟩
      have listed := List.mem_map_of_mem (f := StoredTable.head) member
      rw [heads] at listed
      obtain ⟨old, inside, same⟩ := List.mem_map.1 listed
      exact ⟨old, inside, congrArg Prod.fst same⟩
    · cases done
  · cases done

end Database

namespace Bench

open SerialCheck.Task

variable {bench after : Bench} {admin : Session}

/-- A setup statement succeeds and changes the database as told, or leaves it as it is. -/
theorem setUp_of_sent {text : String} (sets : IsSetup text) {database later : Database}
    (sent : later = database ∨ later = (Engine.execute ⟨database, none⟩ text).2.database) :
    later = database ∨ database.setUp text = some later := by
  rcases sent with same | acted
  · exact .inl same
  · rcases Engine.execute_setup sets database with ⟨_, failed, _⟩ | ⟨made, answered, done⟩
    · rw [failed] at acted
      exact .inl acted
    · rw [answered] at acted
      rw [acted]
      exact .inr done

/-- Replayed setup statements leave an orderly database, whose tables were there before or have been created
by them. -/
theorem replayEach_stays {queries : List Query} (managed : bench.scene.Managed admin)
    (steady : bench.server.Steady) (orderly : bench.server.database.Orderly)
    (setup : ∀ query ∈ queries, ∃ text, query.text = .text text ∧ IsSetup text)
    (returned : (replayEach queries).Returns bench () after) :
    after.scene.Managed admin ∧ bench.scene.Stays after.scene ∧
      after.server.database.Orderly ∧
        after.server.database.layouts = bench.server.database.layouts ∧
          ∀ table ∈ after.server.database.tables,
            (∃ old ∈ bench.server.database.tables, old.name = table.name) ∨
              ∃ query ∈ queries, query.Creates table.name := by
  induction queries generalizing bench with
  | nil =>
    obtain ⟨_, rfl⟩ := returns_pure.1 returned
    exact ⟨managed, .refl _, orderly, rfl, fun table member => .inl ⟨table, member, rfl⟩⟩
  | cons query queries hypothesis =>
    obtain ⟨text, said, sets⟩ := setup query List.mem_cons_self
    rw [replayEach, said, setup_returns_iff (adminSession_apply managed)] at returned
    obtain ⟨outcome, _, returned⟩ := returned
    split at returned
    · exact (returns_throw.1 returned).elim
    · obtain ⟨sent, stays, database⟩ := managed.send_idle steady (opens_not_of_isSetup sets)
      have step := setUp_of_sent sets database
      have first : (bench.scene.send admin (.text text)).server.database.Orderly ∧
          (bench.scene.send admin (.text text)).server.database.layouts =
            bench.server.database.layouts ∧
          ∀ table ∈ (bench.scene.send admin (.text text)).server.database.tables,
            (∃ old ∈ bench.server.database.tables, old.name = table.name) ∨
              Command.ofText text = .create table.name := by
        rcases step with same | done
        · rw [same]
          exact ⟨orderly, rfl, fun table member => .inl ⟨table, member, rfl⟩⟩
        · exact ⟨orderly.setUp done, Database.tables_setUp done⟩
      obtain ⟨kept, layouts, tables⟩ := first
      have between : (bench.afterSending admin (.text text)).scene.Managed admin := sent
      obtain ⟨ends, rest, well, columns, further⟩ := hypothesis between
        (steady.of_rules stays.rules) kept
        (fun other member => setup other (List.mem_cons_of_mem _ member)) returned
      refine ⟨ends, stays.trans rest, well, columns.trans layouts, fun table member => ?_⟩
      rcases further table member with ⟨old, inside, same⟩ | ⟨other, inside, creates⟩
      · rcases tables old inside with ⟨oldest, known, name⟩ | created
        · exact .inl ⟨oldest, known, name.trans same⟩
        · exact .inr ⟨query, List.mem_cons_self, text, said, same ▸ created⟩
      · exact .inr ⟨other, List.mem_cons_of_mem _ inside, creates⟩

end Bench

/-- A bench whose database can be reset over and over: the rules are stateless and concern neither the
query for the catalog nor the statements that drop tables, the setup log creates tables and adds rows, and
every table there is or will be has a column and a plain name. -/
structure Bench.Resettable (bench : Bench) : Prop where
  /-- The rules do the same to a text whenever and wherever it is sent. -/
  stateless : bench.server.Stateless
  /-- The session for setup statements has no transaction open. -/
  idle : bench.Idle
  /-- The tables have columns and plain names. -/
  orderly : bench.server.database.Orderly
  /-- The setup statements create tables or add rows. -/
  setup : ∀ query ∈ bench.setupLog, ∃ text, query.text = .text text ∧ IsSetup text
  /-- No rule concerns the query for the catalog. -/
  catalog : bench.server.Leaves schemaQuery
  /-- No rule concerns the statements that drop the tables that there are or that will be created. -/
  drops : ∀ name, ((∃ table ∈ bench.server.database.tables, table.name = name) ∨
    ∃ query ∈ bench.setupLog, query.Creates name) → bench.server.Leaves (Bench.dropText name)

/-- The database of the first bench has been reset: it was emptied and then filled by the setup
statements. -/
structure Bench.Reset (bench : Bench) (admin : Session) (empty start : Bench) : Prop where
  /-- The database was restored. -/
  returned : Bench.reproduce.Returns bench () start
  /-- The sessions that keep from the one for setup statements have other connections. -/
  apart : ∀ session : Session, session.IsOpen bench.server → bench.KeepsFrom session →
    session.connection ≠ admin.connection
  /-- The session for setup statements is idle once the database is empty. -/
  emptied : empty.scene.Managed admin
  /-- There are no tables then. -/
  tables : empty.server.database.tables = []
  /-- None is known. -/
  schema : empty.schema = {}
  /-- Nothing else was changed. -/
  clears : bench.scene.Stays empty.scene
  /-- The setup statements are replayed and the catalog is read. -/
  fills : ∃ filled, (Bench.replayEach bench.setupLog).Returns empty () filled ∧
    Bench.updateSchema.Returns filled () start
  /-- The session for setup statements is idle again. -/
  managed : start.scene.Managed admin
  /-- Nothing else was changed. -/
  stays : bench.scene.Stays start.scene
  /-- The tables have columns and plain names. -/
  orderly : start.server.database.Orderly
  /-- Tables to come have the same columns all the time. -/
  layouts : start.server.database.layouts = empty.server.database.layouts
  /-- No rule concerns the statements that drop the tables. -/
  drops : ∀ table ∈ start.server.database.tables, start.server.Leaves (Bench.dropText table.name)
  /-- The catalog tells the known tables. -/
  tells : start.server.database.Tells start.schema

namespace Bench

open SerialCheck.Task

variable {bench after empty start : Bench} {admin : Session}

/-- The database is restored by emptying it, replaying the setup statements and reading the catalog. -/
theorem reproduce_returns_iff :
    reproduce.Returns bench () after ↔
      ∃ empty filled, dropTables.Returns bench () empty ∧
        (replayEach empty.setupLog).Returns empty () filled ∧ updateSchema.Returns filled () after := by
  simp only [reproduce, returns_bind, returns_get]
  constructor
  · rintro ⟨_, empty, dropped, _, _, ⟨rfl, rfl⟩, _, filled, replayed, read⟩
    exact ⟨_, filled, dropped, replayed, read⟩
  · rintro ⟨empty, filled, dropped, replayed, read⟩
    exact ⟨(), empty, dropped, empty, empty, ⟨rfl, rfl⟩, (), filled, replayed, read⟩

/-- A resettable bench whose database was restored has been reset. -/
theorem Resettable.reset (resettable : bench.Resettable) (returned : reproduce.Returns bench () start) :
    ∃ admin empty, bench.Reset admin empty start := by
  obtain ⟨empty, filled, dropping, replaying, reading⟩ := reproduce_returns_iff.1 returned
  obtain ⟨admin, emptied, clears, blank, nothing, apart⟩ :=
    dropTables_emptied resettable.stateless.steady resettable.idle resettable.orderly
      resettable.catalog (fun table member => resettable.drops table.name (.inl ⟨table, member, rfl⟩))
      dropping
  have bare : empty.server.database.Orderly := resettable.orderly.of_emptied nothing
  have log : empty.setupLog = bench.setupLog := clears.setupLog
  rw [log] at replaying
  obtain ⟨full, fills, well, layouts, made⟩ := replayEach_stays emptied
    (resettable.stateless.steady.of_rules clears.rules) bare resettable.setup replaying
  have stays := clears.trans fills
  obtain ⟨ends, reads, unread, told⟩ := updateSchema_stays full
    (resettable.stateless.steady.of_rules stays.rules) (resettable.catalog.of_rules stays.rules) reading
  have whole := stays.trans reads
  refine ⟨admin, empty, returned, apart, emptied, nothing.tables, blank, clears,
    ⟨filled, replaying, reading⟩, ends, whole, unread ▸ well, ?_, ?_, told⟩
  · rw [unread, layouts]
  · intro table member
    rw [unread] at member
    rcases made table member with ⟨old, inside, _⟩ | creates
    · rw [nothing.tables] at inside
      cases inside
    · exact (resettable.drops table.name (.inr creates)).of_rules whole.rules

/-- A bench with the same tables can be reset in the same way, and is left the twin of the first one. -/
theorem Reset.again (reset : bench.Reset admin empty start) (resettable : bench.Resettable)
    {batch : Batch} {later : Bench} (managed : later.scene.Managed admin)
    (stays : start.scene.Stays later.scene)
    (outlines : start.server.database.Outlines later.server.database)
    (sessions : ∀ transaction ∈ batch, transaction.session.IsOpen bench.server)
    (apart : ∀ transaction ∈ batch, transaction.session.connection ≠ admin.connection)
    (openings : ∀ transaction ∈ batch, ∀ text, transaction.opening.text = .text text →
      bench.server.Leaves text) :
    ∃ other, reproduce.Returns later () other ∧
      Scene.Twins admin batch start.scene other.scene ∧ later.scene.Stays other.scene := by
  have whole := reset.stays.trans stays
  have steady := resettable.stateless.steady.of_rules whole.rules
  have catalog := resettable.catalog.of_rules whole.rules
  have orderly := reset.orderly.of_heads outlines.heads outlines.layouts
  have tells : later.server.database.Tells start.schema := by
    rw [Database.Tells, Database.catalog_congr outlines.heads]
    exact reset.tells
  have drops : ∀ table ∈ later.server.database.tables, later.server.Leaves (dropText table.name) := by
    intro table member
    have listed := List.mem_map_of_mem (f := StoredTable.head) member
    rw [outlines.heads] at listed
    obtain ⟨known, inside, same⟩ := List.mem_map.1 listed
    have name : known.name = table.name := congrArg Prod.fst same
    exact name ▸ (reset.drops known inside).of_rules stays.rules
  obtain ⟨cleared, dropping, emptied, clears, blank, nothing⟩ :=
    dropTables_steady managed steady orderly catalog drops tells
  have both := whole.trans clears
  have twins : Scene.Twins admin batch empty.scene cleared.scene := by
    refine ⟨reset.emptied, emptied, resettable.stateless.steady.of_rules reset.clears.rules,
      both.rules.trans reset.clears.rules.symm, ⟨?_, ?_⟩, blank.trans reset.schema.symm,
      both.setupLog.trans reset.clears.setupLog.symm, ?_, apart, ?_⟩
    · exact nothing.tables.trans reset.tables.symm
    · exact nothing.layouts.trans (outlines.layouts.trans reset.layouts)
    · exact fun transaction member => ⟨reset.clears.sessions _ (sessions transaction member),
        both.sessions _ (sessions transaction member)⟩
    · exact fun transaction member text said =>
        (openings transaction member text said).of_rules reset.clears.rules
  obtain ⟨filled, replaying, reading⟩ := reset.fills
  obtain ⟨again, replayed, alike⟩ := (lockstep_replayEach resettable.setup).returns twins replaying
  obtain ⟨other, read, ends⟩ := lockstep_updateSchema.returns alike reading
  have bare : cleared.server.database.Orderly := orderly.of_emptied nothing
  obtain ⟨full, fills, _⟩ := replayEach_stays emptied (resettable.stateless.steady.of_rules both.rules) bare
    resettable.setup replayed
  have filling := both.trans fills
  obtain ⟨_, reads, _⟩ := updateSchema_stays full (resettable.stateless.steady.of_rules filling.rules)
    (resettable.catalog.of_rules filling.rules) read
  refine ⟨other, reproduce_returns_iff.2 ⟨cleared, again, dropping, ?_, read⟩, ends,
    (clears.trans fills).trans reads⟩
  have log : cleared.setupLog = bench.setupLog := both.setupLog
  rw [log]
  exact replayed

end Bench

end SerialCheck

import SerialCheck.Proofs.Generated.Known
import SerialCheck.Proofs.Sent.Setup
import SerialCheck.Proofs.Sessions.Drafts
import SerialCheck.Proofs.Setup.Rules

/-!
# How many tables are asked for

Whatever the engine and its rules make of what it is sent, while a database is generated at most ten times
as many tables are asked for as are wanted (`Bench.creates_generateDatabase`). `Task.Creates` bounds the
number of texts that create a table which a task sends, whichever way it ends; the bounds of parts are added
up.
-/
namespace SerialCheck

/-- The event is a text that creates a table. -/
def Event.creates : Event → Bool
  | .sql (.text text) => Text.startsWith text "CREATE TABLE "
  | _ => false

namespace Server

/-- How many texts that create a table the server was sent. -/
def creations (server : Server) : Nat := server.log.toList.countP fun entry => entry.2.creates

/-- They are counted in the register. -/
theorem creations_of_register {server after : Server} {entries : List (Nat × Event)} {connections : Nat}
    (logged : after.register = (server.log.toList ++ entries, connections)) :
    after.creations = server.creations + entries.countP fun entry => entry.2.creates := by
  have log : after.log.toList = server.log.toList ++ entries := congrArg Prod.fst logged
  rw [creations, log, List.countP_append, creations]

end Server

/-- A text over a session is one more at most, and none if it creates no table. -/
theorem Session.creations_execute (session : Session) (text : Value) (server : Server) :
    (session.execute text server).2.creations ≤ server.creations + 1 ∧
      ((Event.sql text).creates = false →
        (session.execute text server).2.creations = server.creations) := by
  have entries (counts : Nat × Event → Bool) :
      (session.entries server text).countP counts ≤ 1 := by
    refine List.countP_le_length.trans ?_
    unfold Session.entries
    split
    · exact Nat.zero_le _
    · cases session.connection <;> simp
  rw [Server.creations_of_register (session.register_execute text server)]
  refine ⟨Nat.add_le_add_left (entries _) _, fun other => ?_⟩
  rw [List.countP_eq_zero.2, Nat.add_zero]
  intro entry inside
  unfold Session.entries at inside
  split at inside
  · cases inside
  · obtain ⟨number, _, rfl⟩ := List.mem_map.1 inside
    rw [other]
    exact Bool.false_ne_true

/-- Whether a text creates a table is decided by its characters. -/
theorem Event.creates_append (front back : String) : (Event.sql (.text (front ++ back))).creates =
    "CREATE TABLE ".toList.isPrefixOf (front.toList ++ back.toList) := Text.startsWith_append _ _ _

/-- A text that sets something creates no table. -/
theorem Event.not_creates_set (rest : String) : (Event.sql (.text ("SET " ++ rest))).creates = false := by
  rw [creates_append]
  rfl

/-- Nor does the query for the catalog. -/
theorem Event.not_creates_schemaQuery : (Event.sql (.text schemaQuery)).creates = false := by
  obtain ⟨rest, cut⟩ := Command.schemaQuery_eq
  have chars : schemaQuery.toList = '\n' :: rest := by rw [cut, String.toList_ofList]
  rw [creates, Text.startsWith, chars]
  rfl

/-- Nor does one that drops a table. -/
theorem Event.not_creates_drop (name : String) :
    (Event.sql (.text (Bench.dropText name))).creates = false := by
  have cut : Bench.dropText name = "DROP TABLE IF EXISTS " ++ (name ++ " CASCADE") := String.append_assoc
  rw [cut, creates_append]
  rfl

/-- Nor does one that adds rows. -/
theorem Event.not_creates_insert (rest : String) :
    (Event.sql (.text ("INSERT INTO " ++ rest))).creates = false := by
  rw [creates_append]
  rfl

/-- Opening a session asks for no table. -/
theorem Session.creations_connect (address label : String) (timeout : Value) (server : Server) :
    (connect address label timeout server).2.creations = server.creations := by
  have asked : (server.connect address).2.creations = server.creations := by
    have logged : (server.connect address).2.register =
        (server.log.toList ++ [(server.connections.length + 1, .connect address)],
          server.connections.length + 1) := by
      unfold Server.connect
      dsimp only
      split <;> simp [Server.register, Server.note]
    exact Server.creations_of_register logged
  unfold connect
  generalize server.connect address = opened at asked
  obtain ⟨granted, reached⟩ := opened
  cases granted with
  | error report => exact asked
  | ok number =>
    dsimp only at asked ⊢
    split
    · exact asked
    · split
      · exact asked
      next text timed =>
        obtain ⟨rest, rfl⟩ := exists_of_lockTimeoutText timed
        have sent := Server.creations_of_register
          (reached.register_execute number (.text ("SET " ++ rest)))
        rw [List.countP_cons, Event.not_creates_set, asked] at sent
        generalize reached.execute number (.text ("SET " ++ rest)) = executed at sent
        obtain ⟨response, delay, set⟩ := executed
        cases response <;> exact sent

namespace Task

variable {α β : Type} {limit further : Nat}

/-- Begun on any bench, the task sends at most so many texts that create a table, whichever way it ends. -/
def Creates (limit : Nat) (task : Task α) : Prop :=
  ∀ bench : Bench, (task bench).2.server.creations ≤ bench.server.creations + limit

/-- What leaves the server alone asks for no table. -/
theorem creates_of_same {task : Task α} (same : ∀ bench, (task bench).2.server = bench.server) :
    Creates limit task := by
  intro bench
  rw [same]
  exact Nat.le_add_right _ _

theorem creates_pure (value : α) : Creates limit (pure value : Task α) := creates_of_same fun _ => rfl

theorem creates_throw (fault : Fault) : Creates limit (throw fault : Task α) := creates_of_same fun _ => rfl

theorem creates_log (level : Level) (text : String) : Creates limit (log level text) :=
  creates_of_same fun _ => rfl

theorem Creates.mono {task : Task α} (creates : Creates limit task) (within : limit ≤ further) :
    Creates further task := by
  intro bench
  have bound := creates bench
  omega

/-- A sequence asks for as many tables as its parts do. -/
theorem Creates.bind {task : Task α} {next : α → Task β} (first : Creates limit task)
    (second : ∀ value, Creates further (next value)) : Creates (limit + further) (task >>= next) := by
  intro bench
  have bound := first bench
  rw [bind_apply]
  generalize task bench = outcome at bound
  obtain ⟨outcome, later⟩ := outcome
  cases outcome with
  | error fault => exact bound.trans (by omega)
  | ok value =>
    have rest := second value later
    dsimp only at bound rest ⊢
    omega

/-- What asks for no table does so before what asks for some. -/
theorem Creates.then {task : Task α} {next : α → Task β} (first : Creates 0 task)
    (second : ∀ value, Creates limit (next value)) : Creates limit (task >>= next) := by
  have both := first.bind second
  rwa [Nat.zero_add] at both

theorem Creates.discard {task : Task α} (creates : Creates limit task) : Creates limit (discard task) := by
  show Creates limit (Function.const α PUnit.unit <$> task)
  rw [map_eq_pure_bind]
  have nothing (value : α) : Creates 0 (pure (Function.const α PUnit.unit value) : Task PUnit) :=
    creates_pure _
  exact creates.bind nothing

/-- What follows a part that asks for no table need only be bounded on the benches on which that returns. -/
theorem Creates.before {task : Task α} (first : Creates 0 task) {next : α → Task β} {bench : Bench}
    (second : ∀ value after, task.Returns bench value after →
      (next value after).2.server.creations ≤ after.server.creations + limit) :
    ((task >>= next) bench).2.server.creations ≤ bench.server.creations + limit := by
  have bound := first bench
  rw [bind_apply]
  cases ended : task bench with
  | mk outcome later =>
    rw [ended] at bound
    cases outcome with
    | error fault => exact bound.trans (Nat.le_add_right _ _)
    | ok value =>
      have rest := second value later ended
      exact rest.trans (Nat.add_le_add_right bound limit)

theorem creates_get_bind {next : Bench → Task α} (second : ∀ bench, Creates limit (next bench)) :
    Creates limit (get >>= next) := fun bench => second bench bench

/-- A use of a value goes on with what it comes to. -/
theorem creates_use_bind {given : Except Misuse α} {next : α → Task β}
    (second : ∀ value, given = .ok value → Creates limit (next value)) :
    Creates limit (use given >>= next) := by
  cases given with
  | ok value => exact second value rfl
  | error cause => exact creates_of_same fun _ => rfl

/-- A choice goes on with what it can choose. -/
theorem creates_attempt_bind {choice : Attempt α} {good : α → Prop} (gives : choice.Gives good)
    {next : α → Task β} (second : ∀ value, good value → Creates limit (next value)) :
    Creates limit (attempt choice >>= next) := by
  intro bench
  have good_drawn := gives bench.randomness
  rw [bind_apply, attempt_apply]
  generalize choice.run bench.randomness = drawn at good_drawn
  obtain ⟨drawn, randomness⟩ := drawn
  cases drawn with
  | error cause => exact Nat.le_add_right _ _
  | ok value => exact second value (good_drawn value rfl) { bench with randomness }

end Task

namespace Bench

open SerialCheck.Task

/-- A text that is sent asks for one table at most, and for none if it creates none. -/
theorem creates_execute (session : Session) (text : Value) :
    Creates 1 (execute session text) ∧
      ((Event.sql text).creates = false → Creates 0 (execute session text)) := by
  have server (bench : Bench) :
      (execute session text bench).2.server = (session.execute text bench.server).2 := by
    have sent : (send session text).Returns bench (bench.scene.reply session text)
        (bench.afterSending session text) := send_returns.2 ⟨rfl, rfl⟩
    rw [execute, sent.bind_apply, outcomeOf]
    cases (bench.scene.reply session text).result <;> rfl
  constructor
  · intro bench
    rw [server]
    exact (session.creations_execute text bench.server).1
  · intro other bench
    rw [server]
    exact ((session.creations_execute text bench.server).2 other).le

theorem creates_connect (label : String) : Creates 0 (connect label) := by
  intro bench
  rcases connect_cases label bench with
    ⟨cause, _, refused⟩ | ⟨address, result, server, journal, _, asked, ended⟩
  · rw [refused]
    exact le_refl _
  · have same := Session.creations_connect address label bench.settings.lockTimeout bench.server
    rw [asked] at same
    rw [ended]
    exact same.le

theorem creates_adminSession : Creates 0 adminSession := by
  have opened : Creates 0 adminSession.openAdmin := by
    refine (creates_connect _).then fun session => Creates.then ?_ fun _ => creates_pure _
    exact creates_of_same fun _ => rfl
  refine creates_get_bind fun bench => ?_
  split
  · split
    · exact opened
    · exact creates_pure _
  · exact opened

variable {α : Type} {text : Value} {next : Outcome → Task α}

/-- A setup text that creates no table asks for as many tables as what follows it. -/
theorem creates_setup {limit : Nat} (other : (Event.sql text).creates = false)
    (rest : ∀ outcome, Creates limit (next outcome)) :
    Creates limit (adminSession >>= fun session => execute session text >>= next) :=
  creates_adminSession.then fun session => ((creates_execute session text).2 other).then rest

theorem creates_updateSchema : Creates 0 updateSchema := by
  refine creates_setup Event.not_creates_schemaQuery fun outcome => ?_
  split
  · exact creates_of_same fun _ => rfl
  · refine creates_use_bind fun schema _ => Creates.then (creates_of_same fun _ => rfl) fun _ => ?_
    split
    · exact creates_of_same fun _ => rfl
    · exact creates_log _ _

/-- Dropping tables creates none. -/
theorem creates_dropTables : Creates 0 dropTables := by
  have dropped (names : List String) : Creates 0 (dropEach names) := by
    induction names with
    | nil => exact creates_pure _
    | cons name names hypothesis =>
      refine creates_setup (Event.not_creates_drop name) fun outcome => ?_
      split
      · exact creates_throw _
      · exact hypothesis
  refine creates_updateSchema.then fun _ => creates_get_bind fun bench => ?_
  exact (dropped _).then fun _ => creates_of_same fun _ => rfl

/-- A setup statement asks for as many tables as its text does. -/
theorem creates_runSetup {limit : Nat} {query : Query}
    (sent : ∀ session, Creates limit (execute session query.text)) : Creates limit (runSetup query) := by
  refine creates_adminSession.then fun session => ?_
  refine @Creates.bind _ _ limit 0 _ _ (sent session) fun outcome => ?_
  split
  · refine Creates.then (creates_of_same fun _ => rfl) fun _ => ?_
    split
    · exact creates_updateSchema.then fun _ => creates_pure _
    · exact creates_pure _
  · split
    · exact (creates_log _ _).then fun _ => creates_pure _
    · exact creates_throw _

theorem creates_tableCount : Creates 0 tableCount := creates_get_bind fun _ => creates_pure _

/-- Each attempt to create a table asks for one. -/
theorem creates_createTables (wanted : Value) (attempts : Nat) :
    Creates attempts (createTables wanted attempts) := by
  induction attempts with
  | zero =>
    refine creates_tableCount.then fun count => creates_use_bind fun below _ => ?_
    split
    · exact creates_throw _
    · exact creates_pure _
  | succ attempts hypothesis =>
    refine creates_tableCount.then fun count => creates_use_bind fun below _ => ?_
    split
    · have drawn : Creates 0 drawTable := by
        refine creates_get_bind fun bench => ?_
        exact creates_attempt_bind (Attempt.gives_any _) fun _ _ => creates_pure _
      refine drawn.then fun query => ?_
      rw [Nat.add_comm]
      exact (creates_runSetup fun session => (creates_execute session _).1).discard.bind fun _ => hypothesis
    · exact creates_pure _

/-- A number of tables is created in ten times as many attempts. -/
theorem attemptsFor_integer (count : Nat) : attemptsFor (.integer count) = .ok (10 * count) := by
  have whole : ((attemptsPerTable : Int) * count).toNat = 10 * count := Int.toNat_natCast (10 * count)
  show Except.ok ((attemptsPerTable : Int) * count).toNat = _
  rw [whole]

theorem creates_createAll (count : Nat) : Creates (10 * count) (createAll (.integer count)) := by
  refine creates_tableCount.then fun known => creates_use_bind fun below _ => ?_
  split
  · rw [attemptsFor_integer]
    exact creates_createTables _ _
  · exact creates_pure _

/-- Insertions create no table. -/
theorem creates_fillTables (wanted : Value) (tables : List Table) :
    Creates 0 (fillTables wanted tables) := by
  have filled (table : Table) (count : Nat) : Creates 0 (fillTable table count) := by
    induction count with
    | zero => exact creates_pure _
    | succ count hypothesis =>
      refine creates_attempt_bind (DataStatement.gives_drawInsert table) fun statement is => ?_
      obtain ⟨name, columns, rows, rfl⟩ := is
      have other : (Event.sql (DataStatement.insert name columns rows).query.text).creates = false := by
        rw [DataStatement.query_text, DataStatement.render]
        simp only [String.append_assoc]
        exact Event.not_creates_insert _
      have sent := creates_runSetup fun session => (creates_execute session _).2 other
      exact sent.discard.then fun _ => hypothesis
  induction tables with
  | nil => exact creates_pure _
  | cons table tables hypothesis =>
    refine creates_use_bind fun count _ => ?_
    exact (filled table _).then fun _ => hypothesis

/-- While a database with a number of tables is generated, at most ten times as many tables are asked for,
whatever becomes of it. -/
theorem creates_generateDatabase {bench : Bench} {count : Nat}
    (wanted : bench.settings.tableCount = .integer count) :
    (generateDatabase bench).2.server.creations ≤ bench.server.creations + 10 * count := by
  refine Creates.before creates_dropTables fun _ dropped returned => ?_
  have settings : dropped.settings = bench.settings := by
    have plan := Keeps.of_returns (fun plan => (durable_plan plan).dropTables) returned
    exact congrArg Prod.fst plan
  have rest : Creates (10 * count) (clearSetupLog >>= fun _ => do
      let settings := dropped.settings
      createAll settings.tableCount
      fillTables settings.insertsPerTable (← get).schema.sorted
      let bench ← get
      let tables := bench.schema.tables.length
      let statements := bench.setupLog.length
      Task.log .info s!"Generated database with {tables} tables and {statements} init queries") := by
    refine Creates.then (creates_of_same fun _ => rfl) fun _ => ?_
    dsimp only
    rw [settings, wanted]
    refine (creates_createAll count).bind fun _ => (?_ : Creates 0 _)
    refine creates_get_bind fun filled => (creates_fillTables _ _).then fun _ => ?_
    exact creates_get_bind fun _ => creates_log _ _
  exact rest dropped

end Bench

end SerialCheck

import SerialCheck.Proofs.Generated.Queries
import SerialCheck.Proofs.Reproduced.Apart

/-!
# What the setup log is worth

While the database is set up, statements succeed and join the setup log, or fail and leave no trace. At any
moment the setup log, replayed over the emptied database, makes the tables that there are
(`Bench.Logged`).
-/
namespace SerialCheck

namespace Scene

/-- The sessions for setup statements of both scenes are idle, and the scenes have the same rules and the
same tables. -/
structure Mirrors (admin : Session) (first second : Scene) : Prop where
  /-- The session is idle on the first scene. -/
  one : first.Managed admin
  /-- So it is on the second one. -/
  two : second.Managed admin
  /-- The rules are steady. -/
  steady : first.server.Steady
  /-- They are the same but for what they have seen. -/
  rules : second.server.rules.map Rule.fresh = first.server.rules.map Rule.fresh
  /-- The tables are the same. -/
  tables : first.server.database.Matches second.server.database

variable {admin : Session} {first second third : Scene} {text : String}

/-- A text over the session for setup statements that opens no transaction is replied to alike. -/
theorem Mirrors.manage (mirrors : Mirrors admin first second) (opens : Command.ofText text ≠ .begin) :
    second.reply admin (.text text) = first.reply admin (.text text) ∧
      Mirrors admin (first.send admin (.text text)) (second.send admin (.text text)) := by
  -- what is known and what has been set up has no part in the reply
  have twins : Twins admin [] { first with schema := {}, setupLog := [] }
      { second with schema := {}, setupLog := [] } :=
    ⟨⟨mirrors.one.session, mirrors.one.idle⟩, ⟨mirrors.two.session, mirrors.two.idle⟩,
      mirrors.steady, mirrors.rules, mirrors.tables, rfl, rfl, nofun, nofun, nofun⟩
  obtain ⟨replied, sent⟩ := twins.manage opens
  exact ⟨replied, ⟨sent.one.session, sent.one.idle⟩, ⟨sent.two.session, sent.two.idle⟩, sent.steady,
    sent.rules, sent.tables⟩

/-- What leaves the tables as they are on one side leaves the scenes mirrored. -/
theorem Mirrors.left (mirrors : Mirrors admin first second) (managed : third.Managed admin)
    (rules : third.server.rules.map Rule.fresh = first.server.rules.map Rule.fresh)
    (same : third.server.database = first.server.database) : Mirrors admin third second where
  one := managed
  two := mirrors.two
  steady := mirrors.steady.of_rules rules
  rules := mirrors.rules.trans rules.symm
  tables := same ▸ mirrors.tables

end Scene

/-- Whatever goes with an outcome, its error is the one that was given. -/
theorem Session.error_of_replyOf {delay : Number} {label : String} {text : Value}
    {given outcome : Outcome} {warning : Except Misuse (Option String)}
    (replied : (replyOf delay label text given warning).result = .ok outcome) :
    outcome.error = given.error := by
  unfold replyOf at replied
  cases warning with
  | error cause => cases replied
  | ok warning =>
    simp only [bind, Except.bind, pure, Except.pure] at replied
    cases recorded : record label text { given with warning } with
    | error cause =>
      rw [recorded] at replied
      cases replied
    | ok shown =>
      rw [recorded] at replied
      cases replied
      rfl

namespace Effect

variable {answer : Answer} {chosen : Except Misuse (Option Rule)} {effect : Effect}

/-- If the engine acts on a text, its answer is the response. -/
theorem response_of_acted (acted : (of answer chosen).acted = true) :
    (of answer chosen).response = answer.mapError (.error .statement) := by
  have left (delay : Number) (notices : List Value) (given : RuleAnswer)
      (acts : (answered answer delay notices given).acted = true) :
      (answered answer delay notices given).response = answer.mapError (.error .statement) := by
    unfold answered at acts ⊢
    split at acts <;> first | rfl | cases acts
  unfold of at acted ⊢
  split at acted
  · cases acted
  · rfl
  · split at acted
    · cases acted
    · cases acted
    · exact left _ _ _ acted

/-- An outcome with an error is that of a refusal. -/
theorem refused_of_reply {label report : String} {text : Value} {outcome : Outcome}
    (replied : (effect.reply label text).result = .ok outcome) (failed : outcome.error = some report) :
    ∃ refusal, effect.response = .error refusal := by
  cases answered : effect.response with
  | error refusal => exact ⟨refusal, rfl⟩
  | ok rows =>
    unfold reply at replied
    rw [answered] at replied
    rw [Session.error_of_replyOf replied] at failed
    cases failed

end Effect

namespace Scene

variable {admin : Session} {scene : Scene} {text : String}

/-- A setup statement that fails leaves no trace in the database. -/
theorem Managed.send_failed (managed : scene.Managed admin) (steady : scene.server.Steady)
    (sets : IsSetup text) {outcome : Outcome} {report : String}
    (replied : (scene.reply admin (.text text)).result = .ok outcome)
    (failed : outcome.error = some report) :
    (scene.send admin (.text text)).server.database = scene.server.database := by
  obtain ⟨number, connection, uses, idle⟩ := managed.idle
  obtain ⟨given, changed, _, _, replaced⟩ := send_steady steady uses text
  rw [given] at replied
  obtain ⟨refusal, refused⟩ := Effect.refused_of_reply replied failed
  rw [replaced.database, Server.engineThen, Effect.engine]
  cases acted : (scene.server.effect number connection text).acted with
  | false => rfl
  | true =>
    have answer : (scene.server.effect number connection text).response =
        (scene.server.engineAfter connection text).1.mapError (.error .statement) :=
      Effect.response_of_acted acted
    rw [refused] at answer
    unfold Server.engineAfter at answer ⊢
    rw [idle] at answer ⊢
    rcases Engine.execute_setup sets scene.server.database with ⟨_, same, _⟩ | ⟨_, done, _⟩
    · rw [same]
    · rw [done] at answer
      cases answer

end Scene

namespace Bench

open SerialCheck.Task

/-- From the first bench to the second one the server was sent nothing but queries for the catalog and the
given statements, in that order and over the given session, each with the outcome. -/
inductive Attempted (admin : Session) (first : Bench) : List (Query × Outcome) → Bench → Prop where
  /-- Nothing was sent. -/
  | none : Attempted admin first [] first
  /-- The server was left alone. -/
  | apart {attempts : List (Query × Outcome)} {bench after : Bench}
      (earlier : Attempted admin first attempts bench) (same : after.server = bench.server) :
      Attempted admin first attempts after
  /-- The catalog was read. -/
  | read {attempts : List (Query × Outcome)} {bench after : Bench} {outcome : Outcome}
      (earlier : Attempted admin first attempts bench)
      (returned : (execute admin (.text schemaQuery)).Returns bench outcome after) :
      Attempted admin first attempts after
  /-- A statement was sent. -/
  | sent {attempts : List (Query × Outcome)} {bench after : Bench} {query : Query}
      {outcome : Outcome} (earlier : Attempted admin first attempts bench)
      (returned : (execute admin query.text).Returns bench outcome after) :
      Attempted admin first (attempts ++ [(query, outcome)]) after

/-- The statements that succeeded, in order. -/
def succeeded (attempts : List (Query × Outcome)) : List Query :=
  (attempts.filter fun attempt => attempt.2.succeeded).map Prod.fst

/-- The setup log holds the attempts that succeeded, and would make the same tables of the emptied
database. -/
structure Logged (admin : Session) (empty : Bench) (attempts : List (Query × Outcome))
    (bench : Bench) : Prop where
  /-- The session for setup statements is idle. -/
  managed : bench.scene.Managed admin
  /-- The rules are as they were at first. -/
  rules : bench.server.rules.map Rule.fresh = empty.server.rules.map Rule.fresh
  /-- The tables have columns and plain names. -/
  orderly : bench.server.database.Orderly
  /-- Tables to come have the columns that they had at first. -/
  layouts : bench.server.database.layouts = empty.server.database.layouts
  /-- The attempts led from the emptied database to this bench. -/
  attempted : Attempted admin empty attempts bench
  /-- Those that succeeded are in the setup log. -/
  setupLog : bench.setupLog = succeeded attempts
  /-- The setup log makes the same tables of the emptied database. -/
  replays : ∀ other : Bench, empty.scene.Mirrors admin other.scene →
    ∃ filled, (replayEach bench.setupLog).Returns other () filled ∧
      bench.scene.Mirrors admin filled.scene ∧ filled.setupLog = other.setupLog

variable {admin : Session} {empty bench between after : Bench} {attempts : List (Query × Outcome)}
  {query : Query} {text : String}

/-- What leaves the scene as it is leaves what is logged. -/
theorem Logged.of_scene (logged : Logged admin empty attempts bench) (same : after.scene = bench.scene) :
    Logged admin empty attempts after := by
  have server : after.server = bench.server := congrArg Scene.server same
  have log : after.setupLog = bench.setupLog := congrArg Scene.setupLog same
  refine ⟨same ▸ logged.managed, server ▸ logged.rules, server ▸ logged.orderly,
    server ▸ logged.layouts, .apart logged.attempted server, log.trans logged.setupLog,
    fun other mirrors => ?_⟩
  rw [log, same]
  exact logged.replays other mirrors

/-- Setup statements are replayed one after the other. -/
theorem replayEach_append (queries others : List Query) :
    replayEach (queries ++ others) = replayEach queries >>= fun _ => replayEach others := by
  induction queries with
  | nil => rfl
  | cons query queries hypothesis =>
    simp only [List.cons_append, replayEach, bind_assoc]
    refine bind_congr fun session => bind_congr fun outcome => ?_
    cases outcome.error with
    | none => exact hypothesis
    | some report => rfl

/-- One more statement adds itself to those that succeeded, if it does. -/
theorem succeeded_append (attempts : List (Query × Outcome)) (query : Query) (outcome : Outcome) :
    succeeded (attempts ++ [(query, outcome)]) =
      succeeded attempts ++ if outcome.error = none then [query] else [] := by
  rw [succeeded, List.filter_append, List.map_append]
  cases failed : outcome.error <;> simp [succeeded, Outcome.succeeded, failed]

section

variable (logged : Logged admin empty attempts bench) (steady : empty.server.Steady)

include logged steady

/-- A setup statement that succeeds is worth a place in the setup log. -/
theorem Logged.joins (said : query.text = .text text) (sets : IsSetup text) {outcome : Outcome}
    (replied : (bench.scene.reply admin (.text text)).result = .ok outcome)
    (done : outcome.error = none) :
    Logged admin empty (attempts ++ [(query, outcome)])
      { bench.afterSending admin (.text text) with setupLog := bench.setupLog ++ [query] } := by
  have opens := opens_not_of_isSetup sets
  have still := steady.of_rules logged.rules
  obtain ⟨managed, stays, sent⟩ := logged.managed.send_idle still opens
  have sound : (bench.scene.send admin (.text text)).server.database.Orderly ∧
      (bench.scene.send admin (.text text)).server.database.layouts =
        empty.server.database.layouts := by
    rcases setUp_of_sent sets sent with same | made
    · exact same ▸ ⟨logged.orderly, logged.layouts⟩
    · exact ⟨logged.orderly.setUp made, (Database.tables_setUp made).1.trans logged.layouts⟩
  refine ⟨⟨managed.session, managed.idle⟩, stays.rules.trans logged.rules, sound.1, sound.2, ?_, ?_,
    ?_⟩
  · refine .apart (.sent logged.attempted (execute_returns.2 ⟨?_, rfl⟩)) ?_
    · rw [said]
      exact replied
    · rw [said]
  · rw [succeeded_append, if_pos done, ← logged.setupLog]
  · intro other mirrors
    obtain ⟨filled, replayed, mirrored, same⟩ := logged.replays other mirrors
    obtain ⟨replies, further⟩ := mirrored.manage opens
    refine ⟨filled.afterSending admin (.text text), ?_, ⟨⟨further.one.session, further.one.idle⟩,
      further.two, further.steady, further.rules, further.tables⟩, same⟩
    refine (replayEach_append _ _) ▸ returns_bind.2 ⟨(), filled, replayed, ?_⟩
    rw [replayEach, said, setup_returns_of_reply (adminSession_apply mirrored.two)
      (replies ▸ replied), done]
    exact returns_pure.2 ⟨rfl, rfl⟩

/-- A setup statement that fails has no part in the setup log. -/
theorem Logged.fails (said : query.text = .text text) (sets : IsSetup text) {outcome : Outcome}
    (replied : (bench.scene.reply admin (.text text)).result = .ok outcome) {report : String}
    (failed : outcome.error = some report) :
    Logged admin empty (attempts ++ [(query, outcome)]) (bench.afterSending admin (.text text)) ∧
      (bench.afterSending admin (.text text)).server.database = bench.server.database := by
  have still := steady.of_rules logged.rules
  obtain ⟨managed, stays, _⟩ := logged.managed.send_idle still (opens_not_of_isSetup sets)
  have same : (bench.afterSending admin (.text text)).server.database = bench.server.database :=
    logged.managed.send_failed still sets replied failed
  refine ⟨⟨managed, stays.rules.trans logged.rules, same ▸ logged.orderly, same ▸ logged.layouts, ?_,
    ?_, ?_⟩, same⟩
  · refine .sent logged.attempted (execute_returns.2 ?_)
    rw [said]
    exact ⟨replied, rfl⟩
  · rw [succeeded_append, failed, if_neg (Option.some_ne_none _), List.append_nil]
    exact logged.setupLog
  · intro other mirrors
    obtain ⟨filled, replayed, mirrored, log⟩ := logged.replays other mirrors
    exact ⟨filled, replayed, mirrored.left managed stays.rules same, log⟩

/-- Reading the catalog has no part in the setup log either. -/
theorem Logged.reads (left : empty.server.Leaves schemaQuery)
    (returned : updateSchema.Returns bench () after) :
    Logged admin empty attempts after ∧ after.server.database.Tells after.schema := by
  have still := steady.of_rules logged.rules
  have left := left.of_rules logged.rules
  obtain ⟨managed, stays, same, tells⟩ := updateSchema_stays logged.managed still left returned
  obtain ⟨replied, _⟩ := logged.managed.send_left still left (Engine.execute_schemaQuery _)
  obtain ⟨schema, _, rfl⟩ := (updateSchema_steady logged.managed still left).1 returned
  refine ⟨⟨managed, stays.rules.trans logged.rules, same ▸ logged.orderly, same ▸ logged.layouts, ?_,
    logged.setupLog, ?_⟩, tells⟩
  · exact .apart (.read logged.attempted (execute_returns.2 ⟨replied, rfl⟩)) rfl
  · intro other mirrors
    obtain ⟨filled, replayed, mirrored, log⟩ := logged.replays other mirrors
    exact ⟨filled, replayed, mirrored.left managed stays.rules same, log⟩

/-- A setup statement is one more attempt, and the known tables stay those of the catalog. -/
theorem Logged.runs (left : empty.server.Leaves schemaQuery)
    (tells : bench.server.database.Tells bench.schema) (said : query.text = .text text)
    (sets : IsSetup text) (announced : ∀ name, Command.ofText text = .create name →
      query.changesSchema = true) {done : Bool} (returned : (runSetup query).Returns bench done after) :
    ∃ outcome, Logged admin empty (attempts ++ [(query, outcome)]) after ∧
      after.server.database.Tells after.schema := by
  rw [runSetup, said, setup_returns_iff (adminSession_apply logged.managed)] at returned
  obtain ⟨outcome, replied, rest⟩ := returned
  refine ⟨outcome, ?_⟩
  cases failed : outcome.error with
  | none =>
    have joined := logged.joins steady said sets replied failed
    simp only [failed, returns_bind, returns_modify] at rest
    obtain ⟨_, _, rfl, rest⟩ := rest
    split at rest
    · obtain ⟨_, between, read, last⟩ := returns_bind.1 rest
      obtain ⟨_, rfl⟩ := returns_pure.1 last
      exact joined.reads steady left read
    next silent =>
      obtain ⟨_, rfl⟩ := returns_pure.1 rest
      refine ⟨joined, ?_⟩
      -- only a row may have been added, which is no part of the catalog
      have keeps : (Command.ofText text).KeepsTables := by
        rcases sets with ⟨name, created⟩ | ⟨name, written⟩
        · exact absurd (announced name created) silent
        · rw [written]
          exact ⟨nofun, nofun⟩
      obtain ⟨number, connection, uses, _⟩ := logged.managed.idle
      have outlines := Scene.outlines_send (steady.of_rules logged.rules) uses keeps
      show Database.Tells (bench.scene.send admin (.text text)).server.database bench.schema
      rw [Database.Tells, Database.catalog_congr outlines.heads]
      exact tells
  | some report =>
    obtain ⟨fails, same⟩ := logged.fails steady said sets replied failed
    simp only [failed] at rest
    split at rest
    · simp only [returns_bind, returns_log, returns_pure] at rest
      obtain ⟨_, _, rfl, _, rfl⟩ := rest
      exact ⟨fails.of_scene rfl, same ▸ tells⟩
    · exact (returns_throw.1 rest).elim

end

end Bench

end SerialCheck

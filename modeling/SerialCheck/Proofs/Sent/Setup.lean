import SerialCheck.Proofs.Sent.Texts

/-!
# Setting up sends nothing over other sessions

Restoring the database and reading the contents of its tables send texts over the session for setup
statements only, even if it has to be opened first (`Bench.maintains_reproduce`,
`Bench.maintains_snapshot`).
-/
namespace SerialCheck

/-- A session that is granted has a connection of its own, and all that is logged meanwhile is about
that connection. -/
theorem Session.register_connect (address label : String) (timeout : Value) (server : Server) :
    let number := server.connections.length + 1
    let (result, after) := connect address label timeout server
    (∀ session, result = .ok session → session.connection = some number) ∧
      ∃ entries : List (Nat × Event), (∀ entry ∈ entries, entry.1 = number) ∧
        after.register = (server.log.toList ++ entries, number) := by
  intro number
  have asked : (server.connect address).2.register =
        (server.log.toList ++ [(number, .connect address)], number) ∧
      ∀ granted, (server.connect address).1 = .ok granted → granted = number := by
    unfold Server.connect
    simp only
    split
    · exact ⟨by simp [Server.register, Server.note, number], fun _ same => by cases same⟩
    · exact ⟨by simp [Server.register, Server.note, number], fun _ same => (Except.ok.inj same).symm⟩
  unfold connect
  obtain ⟨granted, reached, opened⟩ : ∃ granted reached, server.connect address = (granted, reached) :=
    ⟨_, _, rfl⟩
  rw [opened] at asked ⊢
  obtain ⟨logged, named⟩ := asked
  have only : ∃ entries : List (Nat × Event), (∀ entry ∈ entries, entry.1 = number) ∧
      reached.register = (server.log.toList ++ entries, number) :=
    ⟨_, fun entry member => by rw [List.mem_singleton.1 member], logged⟩
  cases granted with
  | error report => exact ⟨fun _ same => (by cases same), only⟩
  | ok place =>
    obtain rfl : place = number := named place rfl
    simp only
    split
    · exact ⟨fun session same => by cases same; rfl, only⟩
    · split
      · exact ⟨fun _ same => (by cases same), only⟩
      next text _ =>
        have sent := reached.register_execute number (.text text)
        obtain ⟨response, delay, set, executed⟩ : ∃ response delay set,
            reached.execute number (.text text) = (response, delay, set) := ⟨_, _, _, rfl⟩
        rw [executed] at sent ⊢
        have further : ∃ entries : List (Nat × Event), (∀ entry ∈ entries, entry.1 = number) ∧
            set.register = (server.log.toList ++ entries, number) := by
          refine ⟨[(number, .connect address), (number, .sql (.text text))], by simp, ?_⟩
          rw [show reached.log.toList = _ from congrArg Prod.fst logged,
            show reached.connections.length = _ from congrArg Prod.snd logged] at sent
          simpa using sent
        cases response with
        | error refusal => exact ⟨fun _ same => (by cases same), further⟩
        | ok rows => exact ⟨fun session same => by cases same; rfl, further⟩

namespace Bench

open SerialCheck.Task

/-- The server knows the connection of the session and was sent the texts over it. The session is not
the one for setup statements. -/
structure Hears (session : Session) (texts : List Value) (bench : Bench) : Prop where
  /-- The texts. -/
  texts : session.texts bench.server = texts
  /-- The connection. -/
  known : ∀ number, session.connection = some number → number ≤ bench.server.connections.length
  /-- The session for setup statements has another one. -/
  keeps : bench.KeepsFrom session

variable {session admin : Session} {texts : List Value} {bench after : Bench}

/-- Only the server and the session for setup statements matter. -/
theorem Hears.congr (hears : bench.Hears session texts) (server : after.server = bench.server)
    (admin : after.admin = bench.admin) : after.Hears session texts where
  texts := server ▸ hears.texts
  known := server ▸ hears.known
  keeps := by
    rw [KeepsFrom, admin]
    exact hears.keeps

theorem Hears.of_scene (hears : bench.Hears session texts) (scene : after.scene = bench.scene) :
    after.Hears session texts :=
  hears.congr (congrArg Scene.server scene) (congrArg Scene.admin scene)

/-- What is sent over a session with another connection is not heard. -/
theorem Hears.other (hears : bench.Hears session texts) (apart : session.connection ≠ admin.connection)
    (text : Value) : (bench.afterSending admin text).Hears session texts where
  texts := (Session.texts_execute_other apart text bench.server).trans hears.texts
  known := by
    have count : (bench.afterSending admin text).server.connections.length =
        bench.server.connections.length :=
      congrArg Prod.snd (Session.register_execute admin text bench.server)
    rw [count]
    exact hears.known
  keeps := hears.keeps

/-- What is sent over the session itself is heard. -/
theorem Hears.own (hears : bench.Hears session texts) {text : Value} {outcome : Outcome}
    (replied : (bench.scene.reply session text).result = .ok outcome) :
    (bench.afterSending session text).Hears session (texts ++ [text]) where
  texts := (Session.texts_execute_own replied).trans (congrArg (· ++ [text]) hears.texts)
  known := by
    have count : (bench.afterSending session text).server.connections.length =
        bench.server.connections.length :=
      congrArg Prod.snd (Session.register_execute session text bench.server)
    rw [count]
    exact hears.known
  keeps := hears.keeps

/-- Over a session with another connection a text can be sent and awaited. -/
theorem maintains_execute {other : Session} (apart : session.connection ≠ other.connection)
    (text : Value) : Maintains (Hears session texts) (execute other text) := by
  intro bench outcome after hears returned
  rw [(execute_returns.1 returned).2]
  exact hears.other apart text

/-- A rollback that is awaited has an outcome. -/
theorem rollback_answered {result : Unit} (returned : (rollback session).Returns bench result after) :
    ∃ outcome, (bench.scene.reply session (.text rollbackText)).result = .ok outcome := by
  simp only [rollback, outcomeOf, returns_bind, returns_discard, returns_release] at returned
  obtain ⟨reply, between, sent, outcome, answered, rfl⟩ := returned
  exact ⟨outcome, (sendRollback_returns sent).1 ▸ answered⟩

/-- A rollback over another session is not heard. -/
theorem maintains_rollback {other : Session} (apart : session.connection ≠ other.connection) :
    Maintains (Hears session texts) (rollback other) := by
  intro bench result after hears returned
  exact (hears.other apart (.text rollbackText)).of_scene (rollback_returns returned).scene

/-- The session for setup statements, opened if need be, is another one. -/
theorem Hears.adminSession (hears : bench.Hears session texts)
    (returned : adminSession.Returns bench admin after) :
    after.Hears session texts ∧ session.connection ≠ admin.connection := by
  rcases adminSession_cases returned with
    ⟨present, rfl, _⟩ | ⟨address, server, reached, scene, _⟩
  · exact ⟨hears, hears.keeps admin present⟩
  · have logged := Session.register_connect address "admin" bench.settings.lockTimeout bench.server
    rw [reached] at logged
    obtain ⟨named, entries, about, register⟩ := logged
    have own : admin.connection = some (bench.server.connections.length + 1) := named admin rfl
    have made : after.server = server := congrArg Scene.server scene
    have count : server.connections.length = bench.server.connections.length + 1 :=
      congrArg Prod.snd register
    have apart : session.connection ≠ some (bench.server.connections.length + 1) := by
      intro same
      have within := hears.known _ same
      omega
    have unheard : entries.filterMap session.textOf? = [] := by
      refine List.filterMap_eq_nil_iff.2 fun entry member => ?_
      obtain ⟨number, event⟩ := entry
      obtain rfl : number = _ := about _ member
      cases event <;> simp [Session.textOf?, apart]
    refine ⟨⟨?_, ?_, ?_⟩, own ▸ apart⟩
    · rw [made, Session.texts, show server.log.toList = _ from congrArg Prod.fst register,
        List.filterMap_append, unheard, List.append_nil]
      exact hears.texts
    · intro number same
      rw [made, count]
      exact (hears.known number same).trans (Nat.le_succ _)
    · intro other present
      rw [show after.admin = some admin from congrArg Scene.admin scene] at present
      rw [← Option.some.inj present, own]
      exact apart

/-- What is sent over the session for setup statements is not heard. -/
theorem maintains_setup {α : Type} (text : Value) {next : Outcome → Task α}
    (further : ∀ outcome, Maintains (Hears session texts) (next outcome)) :
    Maintains (Hears session texts)
      (Bench.adminSession >>= fun admin => execute admin text >>= next) := by
  intro bench result after hears returned
  obtain ⟨admin, ready, given, rest⟩ := returns_bind.1 returned
  obtain ⟨outcome, sent, executed, rest⟩ := returns_bind.1 rest
  obtain ⟨heard, apart⟩ := hears.adminSession given
  rw [(execute_returns.1 executed).2] at rest
  exact further outcome _ result after (heard.other apart text) rest

theorem maintains_updateSchema : Maintains (Hears session texts) updateSchema := by
  refine maintains_setup _ fun outcome => ?_
  split
  · exact maintains_throw_bind _ _
  · refine (maintains_use _).bind fun schema => (maintains_modify fun _ hears => ?_).bind fun _ => ?_
    · exact hears.congr rfl rfl
    · split
      · exact maintains_throw_bind _ _
      · exact maintains_modify fun _ hears => hears.congr rfl rfl

theorem maintains_dropEach (names : List String) :
    Maintains (Hears session texts) (dropEach names) := by
  induction names with
  | nil => exact maintains_pure _
  | cons name names hypothesis =>
    refine maintains_setup _ fun outcome => ?_
    split
    · exact maintains_throw _
    · exact hypothesis

theorem maintains_replayEach (queries : List Query) :
    Maintains (Hears session texts) (replayEach queries) := by
  induction queries with
  | nil => exact maintains_pure _
  | cons query queries hypothesis =>
    refine maintains_setup _ fun outcome => ?_
    split
    · exact maintains_throw _
    · exact hypothesis

/-- Restoring the database sends nothing over other sessions. -/
theorem maintains_reproduce : Maintains (Hears session texts) reproduce := by
  have dropped : Maintains (Hears session texts) dropTables := by
    refine maintains_updateSchema.bind fun _ => maintains_get.bind fun bench => ?_
    exact (maintains_dropEach _).bind fun _ => maintains_modify fun _ hears => hears.congr rfl rfl
  refine dropped.bind fun _ => maintains_get.bind fun bench => ?_
  exact (maintains_replayEach _).bind fun _ => maintains_updateSchema

/-- Nor does reading the contents of the tables. -/
theorem maintains_snapshot : Maintains (Hears session texts) snapshot := by
  refine maintains_get.bind fun bench => ?_
  induction bench.schema.names with
  | nil => exact maintains_pure _
  | cons name names hypothesis =>
    refine maintains_setup _ fun outcome => ?_
    split
    · exact maintains_throw _
    · exact hypothesis.bind fun _ => maintains_pure _

end Bench

end SerialCheck

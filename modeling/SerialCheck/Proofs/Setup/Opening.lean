import SerialCheck.Proofs.Setup.Restore

/-!
# Opening the session for setup statements

The session for setup statements is opened when it is first needed. On a calm server it is idle then and
has a connection of its own, so that the bench is administered (`adminSession_ready`).
-/
namespace SerialCheck

namespace Server

/-- A new connection is open and idle, and all others are as before. -/
theorem connect_ok {server after : Server} {address : String} {number : Nat}
    (connected : server.connect address = (.ok number, after)) :
    number = server.connections.length + 1 ∧ after.database = server.database ∧
      after.rules = server.rules ∧ after.connection? number = some {} ∧
        ∀ other connection, server.connection? other = some connection →
          other ≠ number ∧ after.connection? other = some connection := by
  unfold connect at connected
  simp only at connected
  split at connected
  · cases connected
  · cases connected
    have all : (server.note (server.connections.length + 1) (.connect address)).connections =
        server.connections := rfl
    refine ⟨rfl, rfl, rfl, ?_, ?_⟩
    · simp [connection?, all]
    · intro other connection present
      cases other with
      | zero => cases present
      | succ place =>
        have held : server.connections[place]? = some connection := present
        have within : place < server.connections.length :=
          (List.getElem?_eq_some_iff.1 held).1
        refine ⟨by omega, ?_⟩
        simp only [connection?, all]
        rw [List.getElem?_append_left within]
        exact held

end Server

/-- The statement that sets a timeout does nothing to the tables. -/
theorem Engine.execute_set (database : Database) (rest : String) :
    Engine.execute ⟨database, none⟩ ("SET " ++ rest) = (.ok none, ⟨database, none⟩) := by
  rw [Engine.execute, Command.ofText_set]
  rfl

namespace Session

/-- The statement that sets the lock timeout begins as one that sets something. -/
theorem exists_of_lockTimeoutText {timeout : Value} {text : String}
    (timed : lockTimeoutText timeout = .ok text) : ∃ rest, text = "SET " ++ rest := by
  unfold lockTimeoutText at timed
  cases whole : timeout.wholePart with
  | error cause =>
    rw [whole] at timed
    cases timed
  | ok number =>
    cases written : Value.writeWhole number with
    | error cause =>
      simp only [whole, bind, Except.bind, written] at timed
      cases timed
    | ok shown =>
      simp only [whole, bind, Except.bind, written] at timed
      cases timed
      exact ⟨"lock_timeout = " ++ shown, by rw [← String.append_assoc]; rfl⟩

/-- A session that is opened over a calm server has an idle connection of its own. -/
theorem connect_ok {server after : Server} {address label : String} {timeout : Value}
    {session : Session} (calm : server.Calm)
    (connected : connect address label timeout server = (.ok session, after)) :
    after.Calm ∧ after.database = server.database ∧
      (∃ number connection, session.Uses after number connection ∧ connection.work = none) ∧
      (∀ (other : Session) number connection, other.Uses server number connection →
        other.connection ≠ session.connection ∧ other.Uses after number connection) ∧
      (server.rules = [] → after.rules = []) := by
  unfold connect at connected
  split at connected
  · cases connected
  next number reached opened =>
    obtain ⟨_, database, rules, present, others⟩ := Server.connect_ok opened
    have still : reached.Calm := by
      rw [Server.Calm, rules]
      exact calm
    have apart : ∀ (other : Session) place connection, other.Uses server place connection →
        other.connection ≠ some number ∧ reached.connection? place = some connection := by
      intro other place connection uses
      obtain ⟨different, kept⟩ := others place connection uses.present
      refine ⟨fun same => different ?_, kept⟩
      exact Option.some.inj (uses.named.symm.trans same)
    split at connected
    · cases connected
      refine ⟨still, database, ⟨number, {}, ⟨rfl, present, rfl⟩, rfl⟩, ?_, fun none => ?_⟩
      · intro other place connection uses
        obtain ⟨different, kept⟩ := apart other place connection uses
        exact ⟨different, uses.named, kept, uses.alive⟩
      · rw [rules, none]
    · split at connected
      · cases connected
      next text timed =>
        obtain ⟨rest, rfl⟩ := exists_of_lockTimeoutText timed
        obtain ⟨delay, set, answered, became⟩ :=
          Server.execute_became still present ("SET " ++ rest)
        have made : reached.engineAfter {} ("SET " ++ rest) =
            (.ok none, ⟨reached.database, none⟩) := Engine.execute_set reached.database rest
        rw [made] at answered became
        simp only [answered, mapError_ok] at connected
        cases connected
        refine ⟨became.calm, became.database.trans database,
          ⟨number, _, ⟨rfl, by rw [became.connection, if_pos rfl], rfl⟩, rfl⟩, ?_, fun none => ?_⟩
        · intro other place connection uses
          obtain ⟨different, kept⟩ := apart other place connection uses
          refine ⟨different, uses.named, ?_, uses.alive⟩
          rw [became.connection, if_neg, kept]
          rintro rfl
          exact different uses.named
        · obtain ⟨_, last, again, quiet⟩ :=
            Server.execute_quiet (rules.trans none) number ("SET " ++ rest)
          rw [answered] at again
          cases again
          exact quiet

end Session

namespace Bench

/-- The session for setup statements, if there is one, has no transaction open. -/
def Idle (bench : Bench) : Prop :=
  ∀ session number connection, bench.admin = some session →
    session.Uses bench.server number connection → connection.work = none

/-- A session has another connection than the one for setup statements, if that is there. -/
def KeepsFrom (bench : Bench) (session : Session) : Prop :=
  ∀ admin, bench.admin = some admin → session.connection ≠ admin.connection

/-- Restoring the database first asks for the session for setup statements. -/
theorem reproduce_eq : ∃ next : Session → Task Unit, reproduce = adminSession >>= next := by
  unfold reproduce dropTables updateSchema
  simp only [bind_assoc]
  exact ⟨_, rfl⟩

/-- The session for setup statements is the one that is there and open, or a new one. -/
theorem adminSession_cases {bench after : Bench} {admin : Session}
    (returned : adminSession.Returns bench admin after) :
    (bench.admin = some admin ∧ after = bench ∧
        ∃ number connection, admin.Uses bench.server number connection) ∨
      ∃ address server, Session.connect address "admin" bench.settings.lockTimeout bench.server =
          (.ok admin, server) ∧ after.scene = { bench.scene with server, admin := some admin } ∧
        after.now = bench.now := by
  have opening : ∀ {after : Bench}, adminSession.openAdmin.Returns bench admin after →
      ∃ address server, Session.connect address "admin" bench.settings.lockTimeout bench.server =
          (.ok admin, server) ∧ after.scene = { bench.scene with server, admin := some admin } ∧
        after.now = bench.now := by
    intro after opened
    simp only [adminSession.openAdmin, connect, Task.returns_bind, Task.returns_get,
      Task.returns_use, Task.returns_modify, Task.returns_pure] at opened
    obtain ⟨session, _, ⟨_, _, ⟨rfl, rfl⟩, address, _, ⟨_, rfl⟩, rest⟩, _, _, rfl, rfl, rfl⟩ := opened
    generalize reached : Session.connect address "admin" _ _ = outcome at rest
    obtain ⟨result, server⟩ := outcome
    simp only [Task.returns_set, Task.returns_release, Task.returns_log] at rest
    obtain ⟨_, _, rfl, _, _, ⟨rfl, rfl⟩, _, _, rfl, rfl, rfl⟩ := rest
    exact ⟨address, server, reached, rfl, rfl⟩
  rw [adminSession, Task.returns_get_bind] at returned
  cases present : bench.admin with
  | none =>
    rw [present] at returned
    exact .inr (opening returned)
  | some session =>
    simp only [present] at returned
    split at returned
    · exact .inr (opening returned)
    next alive =>
      obtain ⟨same, unchanged⟩ := Task.returns_pure.1 returned
      subst same
      exact .inl ⟨rfl, unchanged, Session.exists_uses (Bool.eq_false_iff.2 alive)⟩

/-- Once there is a session for setup statements, the bench is administered, and the sessions that keep
from it have other connections. -/
theorem adminSession_ready {bench after : Bench} {admin : Session} (calm : bench.server.Calm)
    (idle : bench.Idle) (returned : adminSession.Returns bench admin after) :
    after.Administered admin bench.server.database ∧ bench.Spares after admin ∧
      ∀ (session : Session) number connection, session.Uses bench.server number connection →
        bench.KeepsFrom session → session.connection ≠ admin.connection := by
  rcases adminSession_cases returned with
    ⟨present, rfl, number, connection, uses⟩ | ⟨address, server, reached, scene, now⟩
  · refine ⟨⟨present, calm, rfl, number, connection, uses,
      idle admin number connection present uses⟩, .refl after admin, ?_⟩
    exact fun other place held theirs keeps => keeps admin present
  · obtain ⟨still, database, fresh, others, quiet⟩ := Session.connect_ok calm reached
    have made : after.server = server := congrArg Scene.server scene
    refine ⟨⟨congrArg Scene.admin scene, made ▸ still, made ▸ database, made ▸ fresh⟩,
      ⟨congrArg Scene.settings scene, congrArg Scene.setupLog scene, now, ?_, made ▸ quiet⟩, ?_⟩
    · intro session number connection _ uses
      rw [made]
      exact (others session number connection uses).2
    · exact fun session number connection uses _ => (others session number connection uses).1

end Bench

end SerialCheck

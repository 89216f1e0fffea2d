import SerialCheck.Proofs.Isolation

/-!
# What other sessions leave alone

Sessions other than the one for setup statements may be opened and closed, and send any texts but those
that create or drop tables. That leaves the session for setup statements as it is, and the names and
columns of the tables (`Server.UsedApart.spared`).
-/
namespace SerialCheck

namespace Server

/-- The server may have come about from the first one by what sessions with another connection than the
given one did: texts that neither create nor drop tables were sent, sessions opened and closed. -/
inductive UsedApart (admin : Session) (first : Server) : Server → Prop where
  /-- Nothing was done. -/
  | unused : UsedApart admin first first
  /-- A text was sent, whatever the reply to it was. -/
  | sent {server : Server} {session : Session} {text : String} (used : UsedApart admin first server)
      (apart : session.connection ≠ admin.connection) (keeps : (Command.ofText text).KeepsTables) :
      UsedApart admin first (session.execute (.text text) server).2
  /-- A session was asked for, whether or not it was granted. -/
  | opened {server : Server} (used : UsedApart admin first server) (address label : String)
      (timeout : Value) : UsedApart admin first (Session.connect address label timeout server).2
  /-- A session was closed. -/
  | closed {server : Server} {session : Session} (used : UsedApart admin first server)
      (apart : session.connection ≠ admin.connection) :
      UsedApart admin first (session.close server)

/-- The second server still has the rules of the first one and the names and columns of its tables, and
the given connection. -/
structure Spared (first second : Server) (number : Nat) (connection : Connection) : Prop where
  /-- The connection. -/
  present : second.connection? number = some connection
  /-- The rules. -/
  rules : second.rules.map Rule.fresh = first.rules.map Rule.fresh
  /-- The tables. -/
  outlines : first.database.Outlines second.database

variable {first server after : Server} {number other : Nat} {connection held changed : Connection}
  {database : Database}

/-- What is done on another connection spares the given one. -/
theorem Spared.of_changed (spared : first.Spared server number connection)
    (replaced : server.Changed after database other changed) (apart : number ≠ other)
    (outlines : server.database.Outlines database) : first.Spared after number connection where
  present := (replaced.connection number).trans ((if_neg apart).trans spared.present)
  rules := replaced.rules.trans spared.rules
  outlines := by
    rw [replaced.database]
    exact spared.outlines.trans outlines

/-- A text that neither creates nor drops a table leaves the names and columns of the tables, whatever
rule applies. -/
theorem outlines_engineThen (number : Nat) {text : String} (keeps : (Command.ofText text).KeepsTables) :
    server.database.Outlines (server.engineThen number held text).database := by
  have acted : server.database.Outlines (server.engineAfter held text).2.database := by
    rw [engineAfter]
    exact Engine.execute_outlines ⟨server.database, held.work⟩ keeps
  rw [engineThen, Effect.engine]
  cases (server.effect number held text).acted with
  | true => exact acted
  | false => exact ⟨rfl, rfl⟩

/-- A new connection, granted or refused, spares the ones that there are. -/
theorem Spared.connect (spared : first.Spared server number connection) (address : String) :
    first.Spared (server.connect address).2 number connection := by
  have kept : ∀ added : List Connection,
      { server with connections := server.connections ++ added }.connection? number =
        some connection := by
    intro added
    have present := spared.present
    cases number with
    | zero => cases present
    | succ place =>
      have within : place < server.connections.length :=
        (List.getElem?_eq_some_iff.1 (show server.connections[place]? = _ from present)).1
      exact (List.getElem?_append_left within).trans present
  unfold Server.connect
  simp only
  split <;> exact ⟨kept _, spared.rules, spared.outlines⟩

/-- Closing another connection spares the given one. -/
theorem Spared.close (spared : first.Spared server number connection) (apart : number ≠ other) :
    first.Spared (server.close other) number connection := by
  unfold Server.close
  split
  · exact spared
  next held present =>
    have noted : (server.note other .close).connection? other = some held := present
    have replaced : server.Changed
        ((server.note other .close).setConnection other { held with closed := true })
        server.database other { held with closed := true } :=
      ⟨rfl, connection?_setConnection noted _, rfl⟩
    exact spared.of_changed replaced apart ⟨rfl, rfl⟩

/-- A text over a session with another connection spares the given one. -/
theorem Spared.send (spared : first.Spared server number connection) (steady : first.Steady)
    {session : Session} (apart : session.connection ≠ some number) {text : String}
    (keeps : (Command.ofText text).KeepsTables) :
    first.Spared (session.execute (.text text) server).2 number connection := by
  cases opened : session.isClosed server with
  | true =>
    rw [Session.execute_of_isClosed opened]
    exact spared
  | false =>
    obtain ⟨other, held, uses⟩ := Session.exists_uses opened
    obtain ⟨_, notices, replaced⟩ :=
      Session.execute_steady (steady.of_rules spared.rules) uses text
    refine spared.of_changed replaced ?_ (outlines_engineThen other keeps)
    rintro rfl
    exact apart uses.named

/-- Asking for a session spares the given connection. -/
theorem Spared.ask (spared : first.Spared server number connection) (steady : first.Steady)
    (address label : String) (timeout : Value) :
    first.Spared (Session.connect address label timeout server).2 number connection := by
  have granted := spared.connect address
  unfold Session.connect
  split
  next refused => simpa [refused] using granted
  next other reached connected =>
    rw [connected] at granted
    obtain ⟨_, _, _, present, others⟩ := connect_ok connected
    have apart := (others number connection spared.present).1
    split
    · exact granted
    · split
      · exact granted
      next text timed =>
        obtain ⟨rest, rfl⟩ := Session.exists_of_lockTimeoutText timed
        obtain ⟨after, executed, replaced⟩ :=
          execute_steady (steady.of_rules granted.rules) present ("SET " ++ rest)
        have sent : first.Spared after number connection := by
          refine granted.of_changed replaced apart (outlines_engineThen other ?_)
          rw [Command.ofText_set]
          exact ⟨nofun, nofun⟩
        rw [executed]
        split <;> simp_all

/-- What other sessions do spares the connection of the given one. -/
theorem UsedApart.spared {admin : Session} (used : first.UsedApart admin server)
    (steady : first.Steady) (uses : admin.Uses first number connection) :
    first.Spared server number connection := by
  induction used with
  | unused => exact ⟨uses.present, rfl, ⟨rfl, rfl⟩⟩
  | @sent server session text used apart keeps hypothesis =>
    exact hypothesis.send steady (uses.named ▸ apart) keeps
  | opened used address label timeout hypothesis =>
    exact hypothesis.ask steady address label timeout
  | @closed server session used apart hypothesis =>
    unfold Session.close
    split
    · exact hypothesis
    next other named =>
      split
      · exact hypothesis
      · refine hypothesis.close fun same => apart ?_
        rw [named, uses.named, same]

end Server

end SerialCheck

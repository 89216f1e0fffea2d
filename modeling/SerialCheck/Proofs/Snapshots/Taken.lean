import SerialCheck.Proofs.Sent.Texts
import SerialCheck.Run.Serial

/-!
# The snapshots that an engine has taken

Which snapshots an engine takes can be read off the connections: the open transaction of a session has no
snapshot before a text and has one behind it. The texts that a server was sent are in its log, so that
replaying the log from an earlier server tells which snapshots were taken since and in which order
(`Batch.snapshots`). Nothing of this looks at what a run records.
-/
namespace SerialCheck

namespace Server

/-- The open transaction of a session has its snapshot. -/
def hasSnapshot (server : Server) (session : Session) : Bool :=
  ((session.connection.bind server.connection?).bind Connection.work).any (·.snapshot.isSome)

/-- The server after an event of its log, if it is a text that is sent. -/
def replay (server : Server) : Nat × Event → Server
  | (number, .sql text) => (Session.execute ⟨some number, ""⟩ text server).2
  | _ => server

/-- What the log of a server has gained since an earlier one. -/
def since (server first : Server) : List (Nat × Event) := server.log.since first.log.size

end Server

namespace Batch

/-- The numbers of the transactions whose snapshots are taken at an event. -/
def taken (batch : Batch) (server : Server) (event : Nat × Event) : List Value :=
  (batch.filter fun transaction : OpenTransaction => !server.hasSnapshot transaction.session &&
    (server.replay event).hasSnapshot transaction.session).map (·.id)

/-- The numbers of the transactions whose snapshots are taken while a log is replayed, in order. -/
def snapshots (batch : Batch) : List (Nat × Event) → Server → List Value
  | [], _ => []
  | event :: events, server => batch.taken server event ++ batch.snapshots events (server.replay event)

/-- Between the two servers snapshots were taken in the given order: replaying what the log has gained leads
from the first one to the second one, and takes them so. -/
structure Took (batch : Batch) (first : Server) (order : List Value) (server : Server) : Prop where
  /-- Replaying what happened leads from the first server to the second one. -/
  replayed : (server.since first).foldl Server.replay first = server
  /-- What happened follows the log of the first server. -/
  log : server.log.toList = first.log.toList ++ server.since first
  /-- The snapshots are taken in that order. -/
  order : batch.snapshots (server.since first) first = order

variable {batch : Batch}

theorem snapshots_append (events further : List (Nat × Event)) (server : Server) :
    batch.snapshots (events ++ further) server =
      batch.snapshots events server ++ batch.snapshots further (events.foldl Server.replay server) := by
  induction events generalizing server with
  | nil => rfl
  | cons event events hypothesis =>
    show batch.taken server event ++ batch.snapshots (events ++ further) (server.replay event) = _
    rw [hypothesis, ← List.append_assoc]
    rfl

end Batch

namespace Session

/-- What becomes of the server does not depend on the name of the session. -/
theorem execute_unnamed (session : Session) (text : Value) (server : Server) :
    (Session.execute ⟨session.connection, ""⟩ text server).2 = (session.execute text server).2 := by
  unfold execute
  cases session.connection with
  | none => rfl
  | some number =>
    dsimp only
    split
    · rfl
    · unfold sendOn
      generalize server.execute number text = answered
      obtain ⟨response, delay, after⟩ := answered
      dsimp only
      split
      · rfl
      · rfl
      · rfl
      · split <;> rfl

end Session

namespace Server

/-- What has been logged since is what follows the log of before. -/
theorem since_eq {first server : Server} {events : List (Nat × Event)}
    (log : server.log.toList = first.log.toList ++ events) : server.since first = events := by
  have size : first.log.size = first.log.toList.length := by simp [History.size, History.toList]
  rw [since, History.since_eq_drop, log, size, List.drop_left]

end Server

namespace Session.Uses

variable {session : Session} {server : Server} {number : Nat} {connection : Connection}
  (uses : session.Uses server number connection)

include uses

/-- Replaying the text of a session does what the session did. -/
theorem replay (text : Value) :
    server.replay (number, .sql text) = (session.execute text server).2 := by
  rw [← session.execute_unnamed, uses.named]
  rfl

/-- The snapshot of a session is that of the work on its connection. -/
theorem hasSnapshot : server.hasSnapshot session = connection.work.any (·.snapshot.isSome) := by
  rw [Server.hasSnapshot, uses.named, Option.bind_some, uses.present, Option.bind_some]

end Session.Uses

namespace Batch.Took

variable {batch : Batch} {first server : Server} {order : List Value}

theorem refl (batch : Batch) (first : Server) : batch.Took first [] first := by
  have none : first.since first = [] := Server.since_eq (List.append_nil _).symm
  exact ⟨by rw [none]; rfl, by rw [none, List.append_nil], by rw [none]; rfl⟩

/-- A text over an open session takes the snapshots that it takes. -/
theorem execute (took : batch.Took first order server) {session : Session} {number : Nat}
    {connection : Connection} (uses : session.Uses server number connection) (text : Value) :
    batch.Took first (order ++ batch.taken server (number, .sql text)) (session.execute text server).2 := by
  have entry : session.entries server text = [(number, .sql text)] := by
    rw [Session.entries, uses.not_isClosed, uses.named]
    rfl
  have logged : (session.execute text server).2.log.toList =
      first.log.toList ++ (server.since first ++ [(number, .sql text)]) := by
    have gained := congrArg Prod.fst (session.register_execute text server)
    rw [entry] at gained
    rw [← List.append_assoc, ← took.log]
    exact gained
  have gained := Server.since_eq logged
  constructor
  · rw [gained, List.foldl_append, took.replayed]
    exact uses.replay text
  · rw [gained]
    exact logged
  · rw [gained, snapshots_append, took.order, took.replayed]
    exact congrArg (order ++ ·) (List.append_nil _)

end Batch.Took

end SerialCheck

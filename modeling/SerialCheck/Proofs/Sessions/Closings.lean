import SerialCheck.Proofs.Sent.Setup
import SerialCheck.Proofs.Sessions.Upheld

/-!
# Who closes a connection

A connection that is closed stays closed (`Server.Onward`). The log of a server tells which connections
their clients closed (`Server.closings`), and a text that is sent or a connection that is asked for adds
none. So what a bench closes is known from the sessions that are closed on it (`Bench.Closes`).
-/
namespace SerialCheck

namespace Server

/-- The number of the connection that an event of the log closes on behalf of its client. -/
def closedBy? : Nat × Event → Option Nat
  | (number, .close) => some number
  | _ => none

/-- The numbers of the connections that their clients closed, in the order of the log. -/
def closings (server : Server) : List Nat := server.log.toList.filterMap closedBy?

/-- The later server may have come about from the first one: no connection is gone, and none that was
closed is open again. -/
structure Onward (server after : Server) : Prop where
  /-- No connection is gone. -/
  size : server.connections.length ≤ after.connections.length
  /-- A connection that was closed is closed. -/
  closed : ∀ number ≤ server.connections.length, server.isClosed number = true →
    after.isClosed number = true

variable {server between after : Server} {number : Nat} {connection replaced : Connection}

namespace Onward

theorem refl (server : Server) : server.Onward server := ⟨le_refl _, fun _ _ closed => closed⟩

theorem trans (first : server.Onward between) (second : between.Onward after) :
    server.Onward after where
  size := first.size.trans second.size
  closed := fun number within closed =>
    second.closed number (within.trans first.size) (first.closed number within closed)

/-- Only the connections matter. -/
theorem of_connections (same : after.connections = server.connections) : server.Onward after where
  size := by rw [same]
  closed := by
    intro number _ closed
    have found : after.connection? number = server.connection? number := by
      unfold connection?
      rw [same]
    rw [isClosed, found]
    exact closed

/-- A session that was closed stays closed. -/
theorem isClosed (onward : server.Onward after) {session : Session}
    (within : ∀ number, session.connection = some number → number ≤ server.connections.length)
    (closed : session.isClosed server = true) : session.isClosed after = true := by
  unfold Session.isClosed at closed ⊢
  cases named : session.connection with
  | none => rfl
  | some number =>
    rw [named] at closed
    exact onward.closed number (within number named) closed

/-- A connection may be replaced by one that is not opened again. -/
theorem setConnection (present : server.connection? number = some connection)
    (still : connection.closed = true → replaced.closed = true) :
    server.Onward (server.setConnection number replaced) where
  size := by
    rw [Server.setConnection, List.length_set]
  closed := by
    intro other _ closed
    have found := connection?_setConnection present replaced other
    unfold Server.isClosed at closed ⊢
    rw [found]
    by_cases same : other = number
    · rw [if_pos same]
      rw [same, present] at closed
      exact still closed
    · rw [if_neg same]
      exact closed

end Onward

theorem onward_addNotices (server : Server) (number : Nat) (notices : List Value) :
    server.Onward (server.addNotices number notices) := by
  unfold addNotices
  split
  · exact .refl _
  next present => exact .setConnection present id

theorem onward_keepNotices (server : Server) (number count : Nat) :
    server.Onward (server.keepNotices number count) := by
  unfold keepNotices
  split
  · exact .refl _
  next present => exact .setConnection present id

theorem onward_lose (server : Server) (number : Nat) : server.Onward (server.lose number) := by
  unfold lose
  split
  · exact .refl _
  next present => exact .setConnection present fun _ => rfl

/-- The engine opens no connection again. -/
theorem onward_ask (server : Server) (number : Nat) (text : Value) :
    server.Onward (server.ask number text).2 := by
  cases text with
  | text text =>
    show server.Onward (server.askEngine number text).2
    unfold askEngine
    split
    · exact .refl _
    next connection present =>
      generalize Engine.execute ⟨server.database, connection.work⟩ text = answered
      have there : ({ server with database := answered.2.database } : Server).connection? number =
          some connection := present
      have moved : server.Onward { server with database := answered.2.database } :=
        .of_connections rfl
      exact moved.trans (.setConnection there id)
  | _ => exact .refl _

/-- Neither does a rule. -/
theorem onward_follow (server : Server) (number : Nat) (text : Value) (rule : Rule) :
    server.Onward (server.follow number text rule).2.2 := by
  unfold follow
  split
  · exact .refl _
  · split
    · exact .refl _
    next notices _ =>
      have noticed := server.onward_addNotices number notices
      refine noticed.trans ?_
      show (server.addNotices number notices).Onward
        ((server.addNotices number notices).answer number text rule).2
      unfold answer
      split
      · exact onward_ask ..
      · exact .refl _
      · dsimp only
        split
        · exact onward_lose ..
        · exact .refl _

/-- Whatever becomes of a text, no connection is opened again. -/
theorem onward_execute (server : Server) (number : Nat) (text : Value) :
    server.Onward (server.execute number text).2.2 := by
  obtain ⟨chosen, rules, choice⟩ : ∃ chosen rules,
      Rule.choose number text (server.note number (.sql text)).rules = (chosen, rules) := ⟨_, _, rfl⟩
  have noted : server.Onward { server.note number (.sql text) with rules } := .of_connections rfl
  rw [execute, choice]
  cases chosen with
  | error cause => exact noted
  | ok rule =>
    cases rule with
    | none => exact noted.trans (onward_ask ..)
    | some rule => exact noted.trans (onward_follow ..)

/-- A connection that is asked for is a further one. -/
theorem onward_connect (server : Server) (address : String) :
    server.Onward (server.connect address).2 := by
  have added (extra : Connection) (log : History (Nat × Event)) :
      server.Onward { server with connections := server.connections ++ [extra], log } := by
    constructor
    · rw [List.length_append]
      exact Nat.le_add_right _ _
    · intro number within closed
      cases number with
      | zero => rfl
      | succ place =>
        have same : (server.connections ++ [extra])[place]? = server.connections[place]? :=
          List.getElem?_append_left within
        show ((server.connections ++ [extra])[place]?).all Connection.closed = true
        rw [same]
        exact closed
  unfold connect
  dsimp only
  split
  · exact added _ _
  · exact added _ _

end Server

namespace Session

/-- A text that is sent opens no connection again. -/
theorem onward_execute (session : Session) (text : Value) (server : Server) :
    server.Onward (session.execute text server).2 := by
  cases opened : session.isClosed server with
  | true =>
    rw [execute_of_isClosed opened]
    exact .refl _
  | false =>
    obtain ⟨number, connection, uses⟩ := exists_uses opened
    have executed := server.onward_execute number text
    rw [execute, uses.named]
    simp only [uses.isClosed_eq_false, Bool.false_eq_true, ↓reduceIte]
    unfold sendOn
    generalize server.execute number text = answered at executed
    obtain ⟨response, delay, reached⟩ := answered
    have settled (kept : Nat) : server.Onward (reached.keepNotices number kept) :=
      executed.trans (reached.onward_keepNotices number kept)
    rcases response with (⟨kind, report⟩ | cause) | rows
    · cases kind with
      | warning => exact executed
      | _ =>
        dsimp only
        split
        · exact executed
        · exact settled _
    · exact executed
    · exact settled _

/-- It closes none on behalf of a client. -/
theorem closings_execute (session : Session) (text : Value) (server : Server) :
    (session.execute text server).2.closings = server.closings := by
  have logged := congrArg Prod.fst (session.register_execute text server)
  have silent : (session.entries server text).filterMap Server.closedBy? = [] := by
    unfold entries
    split
    · rfl
    · cases session.connection <;> rfl
  show (session.execute text server).2.log.toList.filterMap Server.closedBy? = _
  rw [show (session.execute text server).2.log.toList = _ from logged, List.filterMap_append, silent,
    List.append_nil]
  rfl

/-- Asking for a session closes no connection on behalf of a client and opens none again. -/
theorem onward_connect (address label : String) (timeout : Value) (server : Server) :
    server.Onward (connect address label timeout server).2 ∧
      (connect address label timeout server).2.closings = server.closings := by
  have asked := server.onward_connect address
  have silent : (server.connect address).2.closings = server.closings := by
    unfold Server.connect Server.closings
    dsimp only
    split <;> simp [Server.note, Server.closedBy?]
  unfold connect
  split
  next refused =>
    rw [refused] at asked silent
    exact ⟨asked, silent⟩
  next number reached granted =>
    rw [granted] at asked silent
    split
    · exact ⟨asked, silent⟩
    · split
      · exact ⟨asked, silent⟩
      next text _ =>
        have executed := reached.onward_execute number (.text text)
        have logged : (reached.execute number (.text text)).2.2.closings = reached.closings := by
          have gained := congrArg Prod.fst (reached.register_execute number (.text text))
          show (reached.execute number (.text text)).2.2.log.toList.filterMap _ = _
          rw [show (reached.execute number (.text text)).2.2.log.toList = _ from gained,
            List.filterMap_append]
          exact List.append_nil _
        have sent : server.Onward (reached.execute number (.text text)).2.2 ∧
            (reached.execute number (.text text)).2.2.closings = server.closings :=
          ⟨asked.trans executed, logged.trans silent⟩
        split
        next failed =>
          rw [failed] at sent
          exact sent
        next done =>
          rw [done] at sent
          exact sent

/-- A session that is granted has a connection of its own, and the label that was asked for. -/
theorem of_connect_ok {address label : String} {timeout : Value} {server after : Server}
    {session : Session} (granted : connect address label timeout server = (.ok session, after)) :
    session = ⟨some (server.connections.length + 1), label⟩ ∧
      after.connections.length = server.connections.length + 1 := by
  have asked := register_connect address label timeout server
  rw [granted] at asked
  obtain ⟨named, entries, _, registered⟩ := asked
  have labelled : session.label = label := by
    unfold connect at granted
    split at granted
    · cases granted
    · split at granted
      · cases granted
        rfl
      · split at granted
        · cases granted
        · split at granted
          · cases granted
          · cases granted
            rfl
  obtain ⟨connection, _⟩ := session
  cases labelled
  cases named _ rfl
  exact ⟨rfl, congrArg Prod.snd registered⟩

/-- A session that is closed already stays as it is. -/
theorem close_of_isClosed {session : Session} {server : Server} (closed : session.isClosed server = true) :
    session.close server = server := by
  unfold isClosed at closed
  unfold close
  cases named : session.connection with
  | none => rfl
  | some number =>
    rw [named] at closed
    exact if_pos closed

/-- An open one has its connection closed, and a record of that is in the log. -/
theorem Uses.close_eq {session : Session} {server : Server} {number : Nat} {connection : Connection}
    (uses : session.Uses server number connection) : session.close server =
      (server.note number .close).setConnection number { connection with closed := true } := by
  unfold close
  rw [uses.named]
  simp only [uses.isClosed_eq_false, Bool.false_eq_true, ↓reduceIte]
  rw [Server.close, uses.present]

/-- A session that is closed is closed, no connection is opened again by that, and the log tells of its own
connection at most. -/
theorem close_ends (session : Session) (server : Server) :
    session.isClosed (session.close server) = true ∧ server.Onward (session.close server) ∧
      (session.close server).connections.length = server.connections.length ∧
        ∃ numbers, (session.close server).closings = server.closings ++ numbers ∧
          ∀ number ∈ numbers, session.connection = some number := by
  cases closed : session.isClosed server with
  | true =>
    rw [close_of_isClosed closed]
    exact ⟨closed, .refl _, rfl, [], (List.append_nil _).symm, by simp⟩
  | false =>
    obtain ⟨number, connection, uses⟩ := exists_uses closed
    have there : (server.note number .close).connection? number = some connection := uses.present
    have noted : server.Onward (server.note number .close) := .of_connections rfl
    rw [uses.close_eq]
    refine ⟨?_, noted.trans (.setConnection there fun _ => rfl), List.length_set, [number], ?_, ?_⟩
    · rw [isClosed, uses.named, Option.all_some, Server.isClosed, Server.connection?_setConnection there,
        if_pos rfl]
      rfl
    · show (server.log.push (number, .close)).toList.filterMap Server.closedBy? = _
      rw [History.toList_push, List.filterMap_append]
      rfl
    · intro other inside
      rw [List.mem_singleton.1 inside]
      exact uses.named

end Session

/-! ## Benches -/

namespace Bench

/-- From the first bench to the second one the server went on, and the only connections that clients closed
are those of the given sessions. -/
structure Closes (mine : Session → Prop) (bench after : Bench) : Prop where
  /-- The server went on. -/
  onward : bench.server.Onward after.server
  /-- Clients closed connections of the given sessions only. -/
  closings : ∃ numbers, after.server.closings = bench.server.closings ++ numbers ∧
    ∀ number ∈ numbers, ∃ session, mine session ∧ session.connection = some number

variable {mine other : Session → Prop} {bench between after : Bench}

namespace Closes

theorem refl (mine : Session → Prop) (bench : Bench) : Closes mine bench bench :=
  ⟨.refl _, [], (List.append_nil _).symm, by simp⟩

theorem trans (first : Closes mine bench between) (second : Closes mine between after) :
    Closes mine bench after where
  onward := first.onward.trans second.onward
  closings := by
    obtain ⟨numbers, earlier, theirs⟩ := first.closings
    obtain ⟨others, later, theirs'⟩ := second.closings
    refine ⟨numbers ++ others, by rw [later, earlier, List.append_assoc], fun number inside => ?_⟩
    rcases List.mem_append.1 inside with here | there
    · exact theirs number here
    · exact theirs' number there

theorem mono (closes : Closes mine bench after) (wider : ∀ session, mine session → other session) :
    Closes other bench after where
  onward := closes.onward
  closings := by
    obtain ⟨numbers, gained, theirs⟩ := closes.closings
    refine ⟨numbers, gained, fun number inside => ?_⟩
    obtain ⟨session, own, named⟩ := theirs number inside
    exact ⟨session, wider session own, named⟩

/-- What adds nothing to the log that closes a connection closes none. -/
theorem of_silent (onward : bench.server.Onward after.server)
    (silent : after.server.closings = bench.server.closings) : Closes mine bench after :=
  ⟨onward, [], by rw [silent, List.append_nil], by simp⟩

/-- On the same server nothing is closed. -/
theorem of_server (same : after.server = bench.server) : Closes mine bench after :=
  .of_silent (by rw [same]; exact .refl _) (by rw [same])

/-- What is closed goes on to be closed, and nothing else is, while a batch is checked. -/
theorem durable (mine : Session → Prop) (first : Bench) : Durable (Closes mine first) where
  beside closes beside := closes.trans (.of_server beside.server)
  sent session text closes := closes.trans
    (.of_silent (session.onward_execute text _) (session.closings_execute text _))
  refused {bench address label fault server} closes failed := by
    obtain ⟨onward, silent⟩ :=
      Session.onward_connect address label bench.settings.lockTimeout bench.server
    rw [failed] at onward silent
    exact closes.trans (.of_silent onward silent)
  administered {bench address label session server} closes _ granted := by
    obtain ⟨onward, silent⟩ :=
      Session.onward_connect address label bench.settings.lockTimeout bench.server
    rw [granted] at onward silent
    exact closes.trans (.of_silent onward silent)

end Closes

/-- The server goes on with the session closed, and a record of it may be made. -/
theorem closeSession_apply (session : Session) (bench : Bench) : ∃ journal, closeSession session bench =
    (.ok (), { bench with server := session.close bench.server, journal }) := by
  show ∃ journal, (if session.isClosed bench.server then _ else _ : Task Unit) bench = _
  cases closed : session.isClosed bench.server with
  | true =>
    rw [if_pos rfl, Session.close_of_isClosed closed]
    exact ⟨_, rfl⟩
  | false =>
    rw [if_neg Bool.false_ne_true]
    exact ⟨_, rfl⟩

/-- The session is closed, unless it was before; nothing else is done. -/
theorem closeSession_ends (session : Session) (bench : Bench) :
    ∃ after, closeSession session bench = (.ok (), after) ∧
      Closes (· = session) bench after ∧ session.isClosed after.server = true ∧
        after.admin = bench.admin ∧ after.sessionCount = bench.sessionCount := by
  obtain ⟨journal, ended⟩ := closeSession_apply session bench
  obtain ⟨closed, onward, _, numbers, closings, own⟩ := session.close_ends bench.server
  refine ⟨_, ended, ⟨onward, numbers, closings, fun number inside => ?_⟩, closed, rfl, rfl⟩
  exact ⟨session, rfl, own number inside⟩

end Bench

end SerialCheck

import SerialCheck.Proofs.Sessions
import SerialCheck.Proofs.Sessions.Granting

/-!
# Sessions are tended

While work goes on, every connection that was opened since its start belongs to a session that is held or is
the one for setup statements, unless it was granted to a request that ended in a fault (`Bench.Tended`): such
a request leaves nothing by which the connection could be closed (`Server.GivenUp`). Whichever way a check
ends, no session of a transaction is held after it, unless one went astray in a draft that was given up by the
misuse of a value (`Check.evaluate_settles`). A draft is given up otherwise only by the faults after which the
session of its transaction is closed (`Generation.givesUp_statements`).
-/
namespace SerialCheck

open SerialCheck.Task

/-! ## Faults of a draft -/

namespace Generation

/-- A fault after which the session of a transaction is closed, or the misuse of a value. -/
def ClosesOrMisuses (fault : Fault) : Prop :=
  closesSession fault = true ∨ ∃ cause, fault = .misuse cause

/-- Whatever it is begun on, the task ends in such a fault if it ends in any. -/
abbrev GivesUp {α : Type} (before : Bench → Prop) (task : Task α) : Prop :=
  Ensures before ClosesOrMisuses task fun _ _ => True

variable {α : Type} {before : Bench → Prop}

theorem closesOrMisuses_ofGeneration (cause : GenerationFault) : ClosesOrMisuses (.ofGeneration cause) := by
  cases cause with
  | misuse cause => exact .inr ⟨cause, rfl⟩
  | _ => exact .inl rfl

theorem givesUp_pure (value : α) : GivesUp before (pure value) := ensures_pure fun _ _ => trivial

theorem givesUp_use (given : Except Misuse α) : GivesUp before (use given) :=
  ensures_use (fun _ _ _ _ => trivial) fun _ cause _ _ => .inr ⟨cause, rfl⟩

theorem givesUp_attempt (choice : Attempt α) : GivesUp before (attempt choice) where
  returns _ _ _ _ _ := trivial
  fails := by
    intro bench fault after _ failed
    rw [Fails, attempt_apply] at failed
    split at failed
    · cases failed
    · cases failed
      exact closesOrMisuses_ofGeneration _

/-- A sequence gives up as its parts do. -/
theorem GivesUp.bind {β : Type} {task : Task α} {next : α → Task β} (first : GivesUp before task)
    (second : ∀ value, GivesUp (fun _ => True) (next value)) : GivesUp before (task >>= next) :=
  Ensures.bind first second

theorem givesUp_get_bind {next : Bench → Task α}
    (second : ∀ bench, GivesUp (fun _ => True) (next bench)) : GivesUp before (get >>= next) :=
  ensures_get_bind fun bench _ => (second bench).mono (fun _ _ => trivial) fun _ _ _ => trivial

/-- A scripted statement is given up by a fault of a session or of a generation, or a count in its script is
misused. -/
theorem closesOrMisuses_scriptedData {failures : Value} {due : Option (String × Value)} {calls : Int}
    {kind : StatementKind} {fault : Fault}
    (failed : (Synthesizer.scriptedData failures due calls kind).1 = .error fault) :
    ClosesOrMisuses fault := by
  unfold Synthesizer.scriptedData at failed
  dsimp only at failed
  split at failed
  · cases failed
    exact .inr ⟨_, rfl⟩
  · cases failed
    exact .inl rfl
  · split at failed
    · cases failed
      exact .inr ⟨_, rfl⟩
    · cases failed
      exact .inl rfl
    · cases failed

theorem givesUp_statement (kind : StatementKind) : GivesUp before (Synthesizer.statement kind) := by
  refine givesUp_get_bind fun bench => ?_
  split
  · exact givesUp_attempt _
  next failures due calls _ =>
    split
    · exact givesUp_pure _
    · have scripted {fault : Fault} := @closesOrMisuses_scriptedData failures due calls kind fault
      generalize Synthesizer.scriptedData failures due calls kind = drawn at scripted
      obtain ⟨drawn, synthesizer⟩ := drawn
      refine Ensures.through (fun _ _ => True) ?_ fun _ => ?_
      · exact ⟨fun _ _ _ _ _ => trivial, fun _ _ _ _ failed => (fails_set.1 failed).elim⟩
      · exact ensures_release (fun _ _ _ _ => trivial) fun _ fault _ failed => scripted failed

theorem givesUp_tryData : GivesUp before tryData := by
  refine givesUp_get_bind fun bench => (givesUp_attempt _).bind fun kind => ?_
  have drawn : Ensures (fun _ => True) ClosesOrMisuses (caught (Synthesizer.statement kind.val))
      fun outcome _ => ∀ fault, outcome = .error fault → ClosesOrMisuses fault := by
    refine ⟨?_, fun _ _ _ _ failed => (by cases failed)⟩
    intro bench outcome after _ returned fault same
    have all : GivesUp (fun _ => True) (Synthesizer.statement kind.val) := givesUp_statement _
    have given : (Synthesizer.statement kind.val).Fails bench fault after := by
      cases returned
      exact Prod.ext same rfl
    exact all.fails bench fault after trivial given
  refine drawn.bind fun outcome => ?_
  split
  · exact ensures_pure fun _ _ => trivial
  · exact ensures_pure fun _ _ => trivial
  · refine ⟨fun _ _ _ _ _ => trivial, fun _ _ _ given failed => ?_⟩
    rw [(fails_throw.1 failed).1]
    exact given _ rfl

theorem givesUp_dataStatement (attempts : Value) (further : Nat) :
    GivesUp before (dataStatement attempts further) := by
  induction further generalizing before with
  | zero =>
    refine givesUp_tryData.bind fun drawn => ?_
    split
    · exact givesUp_pure _
    · exact ensures_throw (.inl rfl)
  | succ further hypothesis =>
    refine givesUp_tryData.bind fun drawn => ?_
    split
    · exact givesUp_pure _
    · exact hypothesis

theorem givesUp_dataStatements (id : Int) (count index : Nat) :
    GivesUp before (dataStatements id count index) := by
  induction count generalizing before index with
  | zero => exact givesUp_pure _
  | succ count hypothesis =>
    refine givesUp_get_bind fun bench => (givesUp_use _).bind fun allowed => ?_
    refine (givesUp_dataStatement _ _).bind fun drawn => ?_
    exact (hypothesis (index + 1)).bind fun rest => givesUp_pure _

theorem givesUp_openingOf (id : Int) (query : Query) : GivesUp before (openingOf id query) := by
  refine givesUp_get_bind fun bench => ?_
  split
  · exact givesUp_pure _
  · split
    · exact ensures_throw_bind (.inr ⟨_, rfl⟩) _
    · exact givesUp_pure _

/-- The statements of a transaction are given up only by a fault after which its session is closed, or by
the misuse of a value. -/
theorem givesUp_statements (id : Int) (size : Value) : GivesUp before (statements id size) := by
  have closing : GivesUp (fun _ => True) drawClosing :=
    givesUp_get_bind fun bench => (givesUp_attempt _).bind fun rollback => givesUp_pure _
  refine (givesUp_statement _).bind fun query => (givesUp_openingOf id query).bind fun opening => ?_
  refine (givesUp_use _).bind fun count => (givesUp_dataStatements id _ 1).bind fun data => ?_
  exact closing.bind fun kind => (givesUp_statement _).bind fun query => givesUp_pure _

end Generation

/-! ## Whose connection is open -/

namespace Server

/-- What sessions do makes the second server of the first one. -/
inductive Later (server : Server) : Server → Prop where
  /-- Nothing was done. -/
  | refl : Later server server
  /-- A text was sent. -/
  | sent {after : Server} (session : Session) (text : Value) (later : Later server after) :
    Later server (session.execute text after).2
  /-- A session was asked for. -/
  | asked {after : Server} (address label : String) (timeout : Value) (later : Later server after) :
    Later server (Session.connect address label timeout after).2
  /-- A session was closed. -/
  | closed {after : Server} (session : Session) (later : Later server after) :
    Later server (session.close after)

variable {start server between after : Server} {timeout : Value} {number : Nat}

/-- The connection was granted to a session that was asked for with the lock timeout, but the request ended in
a fault and left the connection open. -/
def GivenUp (timeout : Value) (start server : Server) (number : Nat) : Prop :=
  ∃ address label before fault after, start.Later before ∧
    Session.connect address label timeout before = (.error fault, after) ∧
      number = before.connections.length + 1 ∧ after.isClosed number = false ∧ after.Later server

/-- What was given up before is given up later. -/
theorem GivenUp.mono (given : GivenUp timeout start server number)
    (step : ∀ before : Server, before.Later server → before.Later after) :
    GivenUp timeout start after number := by
  obtain ⟨address, label, before, fault, left, reached, failed, same, opened, later⟩ := given
  exact ⟨address, label, before, fault, left, reached, failed, same, opened, step left later⟩

/-- An open connection was open before, or it is a further one. -/
theorem Onward.open_before (onward : server.Onward after) (opened : after.isClosed number = false) :
    server.isClosed number = false ∨
      server.connections.length < number ∧ number ≤ after.connections.length := by
  have within : number ≤ after.connections.length := by
    by_contra beyond
    rw [after.closedBeyond_length number (not_le.1 beyond)] at opened
    cases opened
  by_cases there : number ≤ server.connections.length
  · refine .inl ((Bool.eq_false_or_eq_true _).resolve_left fun closed => ?_)
    rw [onward.closed number there closed] at opened
    cases opened
  · exact .inr ⟨not_le.1 there, within⟩

end Server

namespace Session

variable {server after : Server} {number : Nat}

/-- An open connection was open before a text was sent. -/
theorem open_before_execute {session : Session} {text : Value}
    (opened : (session.execute text server).2.isClosed number = false) : server.isClosed number = false := by
  have size := congrArg Prod.snd (session.register_execute text server)
  refine ((session.onward_execute text server).open_before opened).resolve_right fun ⟨above, within⟩ => ?_
  rw [show (session.execute text server).2.connections.length = server.connections.length from size] at within
  omega

/-- It was open before a session was asked for, or it is the one that was asked for. -/
theorem open_before_connect {address label : String} {timeout : Value} {result : Except Fault Session}
    (asked : connect address label timeout server = (result, after))
    (opened : after.isClosed number = false) :
    server.isClosed number = false ∨ number = server.connections.length + 1 := by
  have onward := (onward_connect address label timeout server).1
  have registered := register_connect address label timeout server
  rw [asked] at onward registered
  obtain ⟨_, entries, _, register⟩ := registered
  refine (onward.open_before opened).imp_right fun ⟨above, within⟩ => ?_
  rw [show after.connections.length = server.connections.length + 1 from congrArg Prod.snd register] at within
  omega

/-- It was open before a session was closed. -/
theorem open_before_close {session : Session} (opened : (session.close server).isClosed number = false) :
    server.isClosed number = false := by
  obtain ⟨_, onward, size, _⟩ := session.close_ends server
  refine (onward.open_before opened).resolve_right fun ⟨above, within⟩ => ?_
  omega

end Session

namespace Bench

variable {timeout : Value} {start : Server} {held others : List Session} {bench after : Bench}

/-- Sessions are asked for with the lock timeout, and every open connection that was not there at the start
belongs to a held session or the one for setup statements, or was given up. -/
structure Tended (timeout : Value) (start : Server) (held : List Session) (bench : Bench) : Prop where
  /-- The lock timeout of the settings. -/
  timed : bench.settings.lockTimeout = timeout
  /-- The server has come about by what sessions did. -/
  later : start.Later bench.server
  /-- Whose connection an open one is. -/
  kept : ∀ number, start.connections.length < number → bench.server.isClosed number = false →
    (∃ session : Session, (session ∈ held ∨ session ∈ bench.admin) ∧ session.connection = some number) ∨
      Server.GivenUp timeout start bench.server number

/-- At the start nothing was opened yet. -/
theorem tended_begun (bench : Bench) : Tended bench.settings.lockTimeout bench.server [] bench := by
  refine ⟨rfl, .refl, fun number beyond opened => ?_⟩
  rw [bench.server.closedBeyond_length number beyond] at opened
  cases opened

namespace Tended

/-- Only the lock timeout, the server and the session for setup statements matter. -/
theorem of_same (tended : Tended timeout start held bench) (settings : after.settings = bench.settings)
    (server : after.server = bench.server) (admin : after.admin = bench.admin) :
    Tended timeout start held after where
  timed := by rw [settings, tended.timed]
  later := server ▸ tended.later
  kept := by
    rw [server, admin]
    exact tended.kept

/-- More sessions may be held. -/
theorem mono (tended : Tended timeout start held bench) (wider : ∀ session ∈ held, session ∈ others) :
    Tended timeout start others bench where
  timed := tended.timed
  later := tended.later
  kept number beyond opened :=
    (tended.kept number beyond opened).imp_left fun ⟨session, whose, named⟩ =>
      ⟨session, whose.imp_left (wider session), named⟩

/-- What sessions do on the server goes on from there. -/
theorem onward (tended : Tended timeout start held bench) {server : Server}
    (step : ∀ before : Server, before.Later bench.server → before.Later server)
    (opened : ∀ number, server.isClosed number = false → bench.server.isClosed number = false) :
    Tended timeout start held { bench with server } where
  timed := tended.timed
  later := step start tended.later
  kept number beyond alive := (tended.kept number beyond (opened number alive)).imp_right (·.mono step)

/-- A session may be asked for in vain; a connection that is left open then was given up. -/
theorem refused {address label : String} {fault : Fault} {server : Server}
    (tended : Tended timeout start held bench)
    (failed : Session.connect address label bench.settings.lockTimeout bench.server =
      (.error fault, server)) :
    Tended timeout start held { bench with server } where
  timed := tended.timed
  later := by
    have asked := tended.later.asked address label bench.settings.lockTimeout
    rwa [failed] at asked
  kept := by
    intro number beyond opened
    rcases Session.open_before_connect failed opened with before | fresh
    · refine (tended.kept number beyond before).imp_right fun given => given.mono fun earlier reached => ?_
      have asked := reached.asked address label bench.settings.lockTimeout
      rwa [failed] at asked
    · refine .inr ⟨address, label, bench.server, fault, server, tended.later, ?_, fresh, opened, .refl⟩
      rw [← tended.timed]
      exact failed

/-- A session that is granted has to be held. -/
theorem granted {address label : String} {session : Session} {server : Server}
    (tended : Tended timeout start held bench)
    (given : Session.connect address label bench.settings.lockTimeout bench.server =
      (.ok session, server)) :
    Tended timeout start (session :: held) { bench with server } where
  timed := tended.timed
  later := by
    have asked := tended.later.asked address label bench.settings.lockTimeout
    rwa [given] at asked
  kept := by
    intro number beyond opened
    obtain ⟨rfl, _⟩ := Session.of_connect_ok given
    rcases Session.open_before_connect given opened with before | rfl
    · refine (tended.kept number beyond before).imp ?_ fun lost => lost.mono fun earlier reached => ?_
      · rintro ⟨session, whose, named⟩
        exact ⟨session, whose.imp_left (List.mem_cons_of_mem _), named⟩
      · have asked := reached.asked address label bench.settings.lockTimeout
        rwa [given] at asked
    · exact .inl ⟨_, .inl List.mem_cons_self, rfl⟩

/-- A text may be sent. -/
theorem sent (tended : Tended timeout start held bench) (session : Session) (text : Value) :
    Tended timeout start held { bench with server := (session.execute text bench.server).2 } := by
  exact tended.onward (fun before reached => reached.sent session text) fun _ => Session.open_before_execute

/-- A session that is closed need not be held. -/
theorem close {session : Session} (tended : Tended timeout start (session :: held) bench) :
    Tended timeout start held (closeSession session bench).2 := by
  obtain ⟨journal, closed⟩ := closeSession_apply session bench
  obtain ⟨shut, _⟩ := session.close_ends bench.server
  rw [closed]
  have going := tended.onward (fun before reached => reached.closed session)
    fun number => Session.open_before_close
  refine ⟨tended.timed, going.later, fun number beyond alive => ?_⟩
  refine (going.kept number beyond alive).imp_left ?_
  rintro ⟨other, held | admin, named⟩
  · rcases List.mem_cons.1 held with rfl | kept
    · rw [Session.isClosed, named, Option.all_some, alive] at shut
      cases shut
    · exact ⟨other, .inl kept, named⟩
  · exact ⟨other, .inr admin, named⟩

end Tended

/-- That sessions are tended is durable. -/
theorem durable_tended (timeout : Value) (start : Server) (held : List Session) :
    Durable (Tended timeout start held) where
  beside tended beside :=
    tended.of_same (congrArg Prod.fst beside.plan) beside.server beside.admin
  sent session text tended := tended.sent session text
  refused tended failed := tended.refused failed
  administered {bench address label session server} tended closed given := by
    have opened := tended.granted given
    refine ⟨opened.timed, opened.later, fun number beyond alive => ?_⟩
    refine (opened.kept number beyond alive).imp_left ?_
    rintro ⟨other, held | admin, named⟩
    · rcases List.mem_cons.1 held with rfl | kept
      · exact ⟨other, .inr rfl, named⟩
      · exact ⟨other, .inl kept, named⟩
    · rcases Session.open_before_connect given alive with before | rfl
      · have shut := closed other admin
        rw [Session.isClosed, named, Option.all_some, before] at shut
        cases shut
      · exact ⟨session, .inr rfl, congrArg Session.connection (Session.of_connect_ok given).1⟩

/-- A session of a transaction has to be held if it is granted. -/
theorem Tended.openSession (tended : Tended timeout start held bench) :
    Tended timeout start ((Bench.openSession bench).1.toOption.toList ++ held)
      (Bench.openSession bench).2 := by
  obtain ⟨label, asked⟩ := openSession_apply bench
  have counted : Tended timeout start held { bench with sessionCount := bench.sessionCount + 1 } :=
    tended.of_same rfl rfl rfl
  rw [asked]
  rcases connect_cases label { bench with sessionCount := bench.sessionCount + 1 } with
    ⟨cause, _, ended⟩ | ⟨address, result, server, journal, _, given, ended⟩
  · rw [ended]
    exact counted
  · rw [ended]
    cases result with
    | error fault => exact (counted.refused given).of_same rfl rfl rfl
    | ok session => exact (counted.granted given).of_same rfl rfl rfl

end Bench

/-- The outcome is the misuse of a value. -/
def Task.Misuses {α : Type} (outcome : Except Fault α) : Prop := ∃ cause, outcome = .error (.misuse cause)

namespace Bench

variable {α β : Type} {timeout : Value} {start : Server} {held : List Session} {bench : Bench}

/-- Sessions are tended. At most one more is held besides the given ones, which went astray in a draft that
was given up by the misuse of a value, in which the outcome ends then. -/
def Settles (timeout : Value) (start : Server) (held : List Session) (outcome : Except Fault α)
    (bench : Bench) : Prop :=
  ∃ stray : Option Session, (stray.isSome = true → Misuses outcome) ∧
    Tended timeout start (stray.toList ++ held) bench

theorem Tended.settles (tended : Tended timeout start held bench) (outcome : Except Fault α) :
    Settles timeout start held outcome bench := ⟨none, nofun, tended⟩

/-- What follows has to end by the misuse of a value where what went before did. -/
theorem Settles.imp {outcome : Except Fault α} {result : Except Fault β} {others : List Session}
    {after : Bench} (settles : Settles timeout start held outcome bench)
    (misuses : Misuses outcome → Misuses result)
    (tended : ∀ stray, Tended timeout start (stray ++ held) bench →
      Tended timeout start (stray ++ others) after) : Settles timeout start others result after := by
  obtain ⟨stray, astray, opened⟩ := settles
  exact ⟨stray, misuses ∘ astray, tended _ opened⟩

end Bench

open Bench

variable {timeout : Value} {start : Server} {others : List Session} {bench : Bench}

namespace Generation

/-- The session that is occupied is held with its transaction, or closed if the statements are given up. -/
theorem occupy_settles {session : Session} (id : Int) (size : Value)
    (tended : Tended timeout start (session :: others) bench) :
    Settles timeout start (held (occupy session id size bench).1 ++ others)
      (occupy session id size bench).1 (occupy session id size bench).2 := by
  have drafted := (Beside.drafting bench).statements id size bench (.refl bench)
  have gives : GivesUp (fun _ => True) (statements id size) := givesUp_statements id size
  unfold occupy
  rw [bind_apply, caught_apply]
  dsimp only
  rcases made : statements id size bench with ⟨fault | transaction, after⟩
  · rw [made] at drafted
    have reached := (durable_tended timeout start _).beside tended drafted
    dsimp only
    rcases gives.fails bench fault after trivial made with closes | ⟨cause, rfl⟩
    · obtain ⟨journal, closed⟩ := closeSession_apply session after
      have settled := reached.close
      rw [closed] at settled
      rw [if_pos closes, bind_apply, closed]
      exact settled.settles _
    · exact ⟨some session, fun _ => ⟨cause, rfl⟩, reached⟩
  · rw [made] at drafted
    have reached := (durable_tended timeout start _).beside tended drafted
    exact ⟨none, nofun, reached.of_same rfl rfl rfl⟩

/-- The session of a transaction is held with it, or closed if the transaction is given up. -/
theorem transaction_settles (tended : Tended timeout start others bench) :
    Settles timeout start (held (transaction bench).1 ++ others) (transaction bench).1
      (transaction bench).2 := by
  have sized := (Beside.drafting bench).drawSize bench (.refl bench)
  rw [transaction_eq, bind_apply]
  rcases drawn : drawSize bench with ⟨fault | size, first⟩
  · rw [drawn] at sized
    exact ((durable_tended timeout start _).beside tended sized).settles _
  · rw [drawn] at sized
    have numbered : nextId first = (.ok (first.nextTransaction : Int),
        { first with nextTransaction := first.nextTransaction + 1 }) := rfl
    have begun : Tended timeout start others { first with nextTransaction := first.nextTransaction + 1 } :=
      ((durable_tended timeout start _).beside tended sized).of_same rfl rfl rfl
    have opened := begun.openSession
    dsimp only
    rw [bind_apply, numbered]
    dsimp only
    rw [bind_apply, caught_apply]
    dsimp only
    rcases asked : Bench.openSession { first with nextTransaction := first.nextTransaction + 1 } with
      ⟨fault | session, second⟩
    · rw [asked] at opened
      exact opened.settles _
    · rw [asked] at opened
      exact occupy_settles _ size opened

end Generation

namespace Check

/-- The sessions of the generated transactions are held with them, also if a further one is given up. -/
theorem generateEach_settles (count : Nat) (batch : Batch)
    (tended : Tended timeout start (sessionsOf batch) bench) :
    ∃ generated made after, generateEach count batch bench = (.ok (generated, made), after) ∧
      Settles timeout start (sessionsOf made) generated after := by
  induction count generalizing batch bench with
  | zero => exact ⟨_, _, _, rfl, tended.settles _⟩
  | succ count hypothesis =>
    have given := Generation.transaction_settles tended
    unfold generateEach
    rw [bind_apply, caught_apply]
    dsimp only
    rcases made : Generation.transaction bench with ⟨fault | transaction, after⟩
    · rw [made] at given
      refine ⟨.error fault, batch, after, rfl, given.imp ?_ fun _ => id⟩
      rintro ⟨cause, same⟩
      cases same
      exact ⟨cause, rfl⟩
    · rw [made] at given
      obtain ⟨stray, astray, held⟩ := given
      cases stray with
      | some session => obtain ⟨cause, same⟩ := astray rfl; cases same
      | none =>
        have kept : Tended timeout start (transaction.session :: sessionsOf batch) after := held
        refine hypothesis _ (kept.mono fun session member => ?_)
        rw [sessionsOf, List.map_append, List.mem_append, or_comm]
        exact (List.mem_cons.1 member).imp_left List.mem_singleton.2

/-- The sessions of a batch are closed one after the other. -/
theorem closeEach_ends (batch : Batch) (bench : Bench) : ∃ after, closeEach batch bench = (.ok (), after) ∧
    ∀ {timeout start others}, Tended timeout start (sessionsOf batch ++ others) bench →
      Tended timeout start others after := by
  induction batch generalizing bench with
  | nil => exact ⟨bench, rfl, id⟩
  | cons transaction batch hypothesis =>
    obtain ⟨journal, closed⟩ := closeSession_apply transaction.session bench
    obtain ⟨after, ended, settled⟩ := hypothesis { bench with
      server := transaction.session.close bench.server, journal }
    refine ⟨after, ?_, fun tended => settled ?_⟩
    · rw [closeEach, bind_apply, closed]
      exact ended
    · have left := tended.close
      rwa [closed] at left

/-- Whichever way a check ends, no session of a transaction is held after it, unless one went astray. -/
theorem evaluate_settles (tended : Tended timeout start [] bench) :
    Settles timeout start [] (evaluate bench).1 (evaluate bench).2 := by
  have read : (get : Task Bench) bench = (.ok bench, bench) := rfl
  unfold evaluate
  rw [bind_apply, read]
  dsimp only
  rw [bind_apply]
  cases sized : bench.settings.batchSize.count with
  | error cause => exact tended.settles _
  | ok count =>
    have counted : use (Except.ok count : Except Misuse Int) bench = (.ok count, bench) := rfl
    obtain ⟨generated, made, first, ended, opened⟩ := generateEach_settles count.toNat [] tended
    rw [counted]
    dsimp only
    rw [bind_apply, ended]
    dsimp only
    rw [bind_apply, withCleanup, bind_apply, caught_apply]
    dsimp only
    have durable := durable_tended timeout start
    have checked : Settles timeout start (sessionsOf made)
        ((release generated >>= fun batch => checkBatch batch) first).1
        ((release generated >>= fun batch => checkBatch batch) first).2 := by
      refine opened.imp ?_ fun stray held => ?_
      · rintro ⟨cause, same⟩
        rw [same]
        exact ⟨cause, rfl⟩
      exact (upholds_release generated).bind (fun batch => (durable _).checkBatch
        (fun _ tended => tended.of_same rfl rfl rfl) batch) first held
    generalize (release generated >>= fun batch => checkBatch batch) first = verdict at checked
    obtain ⟨verdict, second⟩ := verdict
    obtain ⟨third, closed, settled⟩ := closeEach_ends made second
    rw [bind_apply, closed]
    dsimp only
    rw [← bind_apply]
    refine checked.imp ?_ fun stray held => ?_
    · rintro ⟨cause, same⟩
      cases same
      exact ⟨cause, rfl⟩
    have recorded : Upholds (Tended timeout start (stray ++ [])) (release verdict >>= fun verdict => do
        recordVerdict made verdict
        return verdict) :=
      (upholds_release verdict).bind fun verdict =>
        ((durable _).recordVerdict made verdict).bind fun _ => upholds_pure _
    refine recorded third (settled (held.mono fun session member => ?_))
    rw [List.append_nil]
    exact List.mem_append.2 (List.mem_append.1 member).symm

end Check

end SerialCheck

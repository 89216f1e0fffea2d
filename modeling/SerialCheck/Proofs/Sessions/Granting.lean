import SerialCheck.Proofs.Sessions.Closings
import SerialCheck.Proofs.Setup.Opening

/-!
# How a session is granted

A session that is asked for gets a connection and, if there is a lock timeout, is sent the statement that
sets it. The request is meant to be all or nothing (`Session.AllOrNothing`). It is, unless the connection is
granted and that statement comes to an error that does not end the connection: nobody knows of the
connection then, and nobody closes it (`Session.allOrNothing_iff`).
-/
namespace SerialCheck

namespace Server

variable {server after : Server} {number : Nat} {text : Value}

/-- No connection with a number above the given one is open. -/
def ClosedBeyond (server : Server) (count : Nat) : Prop :=
  ∀ number, count < number → server.isClosed number = true

/-- There are no open connections beyond those that there are. -/
theorem closedBeyond_length (server : Server) : server.ClosedBeyond server.connections.length := by
  intro number beyond
  cases number with
  | zero => rfl
  | succ place =>
    have none : server.connections[place]? = none := List.getElem?_eq_none (Nat.le_of_lt_succ beyond)
    rw [isClosed, connection?, none]
    rfl

/-- A connection that is refused is not open. -/
theorem of_connect_error {address report : String}
    (refused : server.connect address = (.error report, after)) :
    after.ClosedBeyond server.connections.length := by
  unfold connect at refused
  dsimp only at refused
  split at refused
  · cases refused
    intro number beyond
    rcases Nat.lt_or_eq_of_le (Nat.succ_le_of_lt beyond) with above | rfl
    · refine closedBeyond_length _ number ?_
      rw [List.length_append]
      exact above
    · simp [isClosed, connection?, note]
  · cases refused

/-- A connection that is granted is one more. -/
theorem of_connect_ok {address : String} (granted : server.connect address = (.ok number, after)) :
    number = server.connections.length + 1 ∧ after.connections.length = server.connections.length + 1 := by
  unfold connect at granted
  dsimp only at granted
  split at granted
  · cases granted
  · cases granted
    exact ⟨rfl, List.length_append⟩

/-! ## A text that is answered by rows closes nothing -/

/-- The open connections of the second server are those of the first one. -/
def KeepsOpen (server after : Server) : Prop := ∀ number, after.isClosed number = server.isClosed number

theorem KeepsOpen.trans {between : Server} (first : server.KeepsOpen between)
    (second : between.KeepsOpen after) : server.KeepsOpen after :=
  fun number => (second number).trans (first number)

theorem keepsOpen_setConnection {connection replaced : Connection}
    (present : server.connection? number = some connection)
    (same : replaced.closed = connection.closed) :
    server.KeepsOpen (server.setConnection number replaced) := by
  intro other
  rw [isClosed, connection?_setConnection present, isClosed]
  by_cases own : other = number
  · rw [if_pos own, own, present]
    exact same
  · rw [if_neg own]

theorem keepsOpen_addNotices (server : Server) (number : Nat) (notices : List Value) :
    server.KeepsOpen (server.addNotices number notices) := by
  unfold addNotices
  split
  · exact fun _ => rfl
  next present => exact keepsOpen_setConnection present rfl

/-- The engine closes no connection. -/
theorem keepsOpen_ask (server : Server) (number : Nat) (text : Value) :
    server.KeepsOpen (server.ask number text).2 := by
  cases text with
  | text text =>
    show server.KeepsOpen (server.askEngine number text).2
    unfold askEngine
    split
    · exact fun _ => rfl
    next connection present =>
      generalize Engine.execute ⟨server.database, connection.work⟩ text = answered
      have there : ({ server with database := answered.2.database } : Server).connection? number =
          some connection := present
      have kept : ({ server with database := answered.2.database } : Server).KeepsOpen
          (({ server with database := answered.2.database } : Server).setConnection number
            { connection with work := answered.2.work }) := keepsOpen_setConnection there rfl
      exact kept
  | _ => exact fun _ => rfl

/-- Neither does a rule that answers by rows. -/
theorem keepsOpen_follow {rule : Rule} {rows : Option Rows}
    (answered : (server.follow number text rule).1 = .ok rows) :
    server.KeepsOpen (server.follow number text rule).2.2 := by
  unfold follow at answered ⊢
  split at answered
  · cases answered
  · split at answered
    · cases answered
    next notices _ =>
      refine (server.keepsOpen_addNotices number notices).trans ?_
      change ((server.addNotices number notices).answer number text rule).1 = .ok rows at answered
      show (server.addNotices number notices).KeepsOpen
        ((server.addNotices number notices).answer number text rule).2
      unfold answer at answered ⊢
      split at answered
      · exact keepsOpen_ask _ _ _
      · exact fun _ => rfl
      · dsimp only at answered
        split at answered <;> cases answered

/-- A text that is answered by rows leaves all open connections open. -/
theorem keepsOpen_execute {rows : Option Rows} (answered : (server.execute number text).1 = .ok rows) :
    server.KeepsOpen (server.execute number text).2.2 := by
  obtain ⟨chosen, rules, choice⟩ : ∃ chosen rules,
      Rule.choose number text (server.note number (.sql text)).rules = (chosen, rules) := ⟨_, _, rfl⟩
  rw [execute, choice] at answered ⊢
  cases chosen with
  | error cause => cases answered
  | ok rule =>
    have noted : server.KeepsOpen { server.note number (.sql text) with rules } := fun _ => rfl
    cases rule with
    | none => exact noted.trans (keepsOpen_ask _ _ _)
    | some rule => exact noted.trans (keepsOpen_follow answered)

end Server

namespace Session

/-- The lock timeout is set on a connection without an error. -/
def SetsTimeout (timeout : Value) (number : Nat) (server after : Server) : Prop :=
  ∃ text rows delay, lockTimeoutText timeout = .ok text ∧
    server.execute number (.text text) = (.ok rows, delay, after)

/-- A session that is asked for is granted over an open connection of its own, on which the lock timeout was
set if there is one, or the request ends in a session fault and leaves no connection open. -/
def AllOrNothing (address label : String) (timeout : Value) (server : Server) : Prop :=
  match connect address label timeout server with
  | (.ok session, after) => ∃ number opened, session.connection = some number ∧
      server.connect address = (.ok number, opened) ∧ after.isClosed number = false ∧
        (timeout.isFilled = true → SetsTimeout timeout number opened after)
  | (.error fault, after) =>
    (∃ cause, fault = .session cause) ∧ after.ClosedBeyond server.connections.length

/-- The statement that sets the lock timeout can be written, and if it comes to an error then this is one of
the database and ends the connection. -/
def SetsOrEnds (timeout : Value) (number : Nat) (server : Server) : Prop :=
  ∃ text response delay after, lockTimeoutText timeout = .ok text ∧
    server.execute number (.text text) = (response, delay, after) ∧
      ∀ refusal, response = .error refusal →
        (∃ kind report, refusal = .error kind report ∧ kind ≠ .warning) ∧ after.isClosed number = true

variable {address label : String} {timeout : Value} {server opened after : Server} {number : Nat}

/-- A text that is sent on a new connection opens no other one. -/
theorem closedBeyond_execute {text : Value} {response : Response} {delay : Number}
    (granted : server.connect address = (.ok number, opened))
    (executed : opened.execute number text = (response, delay, after)) :
    after.ClosedBeyond server.connections.length ↔ after.isClosed number = true := by
  obtain ⟨rfl, size⟩ := Server.of_connect_ok granted
  have same := congrArg Prod.snd (opened.register_execute (server.connections.length + 1) text)
  rw [executed] at same
  constructor
  · exact fun closed => closed _ (Nat.lt_succ_self _)
  · intro closed other beyond
    rcases Nat.lt_or_eq_of_le (Nat.succ_le_of_lt beyond) with above | rfl
    · refine after.closedBeyond_length other ?_
      rw [show after.connections.length = opened.connections.length from same, size]
      exact above
    · exact closed

/-- A refusal is a fault of the session exactly if it is an error of the database. -/
theorem openingFault_session {label : String} {refusal : Refusal} :
    (∃ cause, openingFault label refusal = .session cause) ↔
      ∃ kind report, refusal = .error kind report ∧ kind ≠ .warning := by
  rcases refusal with ⟨kind, report⟩ | cause
  · cases kind <;> simp [openingFault]
  · simp [openingFault]

/-- What the statement comes to decides. -/
theorem setsOrEnds_iff {text : String} {response : Response} {delay : Number}
    (written : lockTimeoutText timeout = .ok text)
    (executed : server.execute number (.text text) = (response, delay, after)) :
    SetsOrEnds timeout number server ↔ ∀ refusal, response = .error refusal →
      (∃ kind report, refusal = .error kind report ∧ kind ≠ .warning) ∧ after.isClosed number = true := by
  constructor
  · rintro ⟨other, _, _, _, shown, again, ends⟩
    rw [written] at shown
    cases shown
    rw [executed] at again
    cases again
    exact ends
  · exact fun ends => ⟨text, response, delay, after, written, executed, ends⟩

/-- Asking for a session is all or nothing exactly if a connection that is granted has its lock timeout set,
where there is one, or is ended by the error that this comes to. -/
theorem allOrNothing_iff : AllOrNothing address label timeout server ↔
    ∀ number opened, server.connect address = (.ok number, opened) → timeout.isFilled = true →
      SetsOrEnds timeout number opened := by
  unfold AllOrNothing connect
  rcases asked : server.connect address with ⟨report | number, opened⟩
  · exact ⟨fun _ _ _ granted => (by cases granted),
      fun _ => ⟨⟨_, rfl⟩, Server.of_connect_error asked⟩⟩
  · have fresh : opened.isClosed number = false := by
      rw [Server.isClosed, (Server.connect_ok asked).2.2.2.1]
      rfl
    dsimp only
    cases filled : timeout.isFilled with
    | false =>
      refine ⟨fun _ _ _ _ timed => (by cases timed), fun _ => ?_⟩
      exact ⟨number, opened, rfl, rfl, fresh, fun timed => (by cases timed)⟩
    | true =>
      rw [if_neg (by simp)]
      cases written : lockTimeoutText timeout with
      | error cause =>
        refine ⟨fun ended => ?_, fun sets => ?_⟩
        · obtain ⟨⟨cause, same⟩, _⟩ := ended
          cases same
        · obtain ⟨text, _, _, _, shown, _⟩ := sets number opened rfl rfl
          rw [written] at shown
          cases shown
      | ok text =>
        dsimp only
        rcases executed : opened.execute number (.text text) with ⟨refusal | rows, delay, after⟩
        · have closed := closedBeyond_execute asked executed
          dsimp only
          rw [openingFault_session, closed]
          refine ⟨fun ended number opened granted _ => ?_, fun sets => ?_⟩
          · cases granted
            refine (setsOrEnds_iff written executed).2 fun _ same => ?_
            cases same
            exact ended
          · exact (setsOrEnds_iff written executed).1 (sets number opened rfl rfl) refusal rfl
        · have kept := Server.keepsOpen_execute (congrArg Prod.fst executed) number
          rw [executed] at kept
          refine ⟨fun _ number opened granted _ => ?_, fun _ => ?_⟩
          · cases granted
            exact (setsOrEnds_iff written executed).2 fun _ same => (by cases same)
          · refine ⟨number, opened, rfl, rfl, kept.trans fresh, fun _ => ?_⟩
            exact ⟨text, rows, delay, written, executed⟩

/-- A request that fails and leaves a new connection open is not all or nothing. -/
theorem not_allOrNothing (failed : (connect address label timeout server).1.toOption = none)
    (beyond : server.connections.length < number)
    (opened : (connect address label timeout server).2.isClosed number = false) :
    ¬AllOrNothing address label timeout server := by
  unfold AllOrNothing
  generalize connect address label timeout server = asked at failed opened
  rcases asked with ⟨fault | session, after⟩
  · rintro ⟨_, closed⟩
    rw [closed number beyond] at opened
    cases opened
  · cases failed

end Session

end SerialCheck

import SerialCheck.Fault
import SerialCheck.Server

/-!
# Sessions

A session sends texts over one connection. The errors of statements are part of its outcomes;
only the loss of the connection is a fault. The notices that a text causes become the warning
of its outcome, and the notices that were there before stay on the connection.
-/
namespace SerialCheck

/-- What comes of a text: rows or an error, and a warning. -/
structure Outcome where
  /-- The rows of the result set, none if there is no result set. -/
  rows : Option Rows := none
  /-- The error report. -/
  error : Option String := none
  /-- The notices as one text. -/
  warning : Option String := none

namespace Outcome

/-- The text was executed without an error. -/
def succeeded (outcome : Outcome) : Bool := outcome.error.isNone

end Outcome

/-- The outcome of a text or the fault of the session, and how long it takes. -/
structure Reply where
  /-- How long it takes. -/
  delay : Number
  /-- The outcome or the fault. -/
  result : Except Fault Outcome
  /-- What is recorded about the outcome. -/
  record : Option String := none

/-- A session over a connection. -/
structure Session where
  /-- The number of its connection, if it has one. -/
  connection : Option Nat
  /-- The name by which it is shown. -/
  label : String
  deriving Repr, DecidableEq

namespace Session

/-- The session can no longer be used. -/
def isClosed (session : Session) (server : Server) : Bool := session.connection.all server.isClosed

/-- The statement that sets the lock timeout of a session. -/
def lockTimeoutText (timeout : Value) : Except Misuse String := do
  return "SET lock_timeout = " ++ (← Value.writeWhole (← timeout.wholePart))

/-- The fault of a session that a refused text amounts to while it is opened. -/
def openingFault (label : String) : Refusal → Fault
  | .error .warning report => .warning report
  | .error _ report => .session (.refused label report)
  | .misuse cause => .misuse cause

/-- A session over a new connection, with its lock timeout set unless it is zero. -/
def connect (address label : String) (lockTimeout : Value) (server : Server) :
    Except Fault Session × Server :=
  match server.connect address with
  | (.error report, server) => (.error (.session (.refused label report)), server)
  | (.ok number, server) =>
    if !lockTimeout.isFilled then (.ok ⟨some number, label⟩, server)
    else
      match lockTimeoutText lockTimeout with
      | .error cause => (.error (.misuse cause), server)
      | .ok text =>
        match server.execute number (.text text) with
        | (.error cause, _, server) => (.error (openingFault label cause), server)
        | (.ok _, _, server) => (.ok ⟨some number, label⟩, server)

/-- A notice without blanks around it. -/
def trimNotice : Value → Except Misuse String
  | .text notice => .ok (Text.trim notice)
  | notice => .error (.operation notice.kindName "strip")

/-- The warning that notices amount to: each without blanks around it on lines of its own. -/
def warningOf : List Value → Except Misuse (Option String)
  | [] => .ok none
  | notices => do
    let lines ← notices.mapM trimNotice
    return some (Text.trim (String.join (lines.map (· ++ "\n"))))

/-- The warning from the notices beyond a number of them, which are taken off the
connection. -/
def collect (server : Server) (number kept : Nat) : Except Misuse (Option String) × Server :=
  (warningOf ((server.notices number).drop kept), server.keepNotices number kept)

/-- How much of a text a record shows. -/
def shownLength : Nat := 100

/-- The record of an outcome. -/
def record (label : String) (text : Value) (outcome : Outcome) : Except Misuse String := do
  let shown ← text.start shownLength
  match outcome.error with
  | none => return "[" ++ label ++ "] Success - " ++ shown
  | some report => return "[" ++ label ++ "] Failed - " ++ shown ++ ": " ++ report

/-- The reply of an outcome with the warning and the record that go with it. -/
def replyOf (delay : Number) (label : String) (text : Value) (outcome : Outcome)
    (warning : Except Misuse (Option String)) : Reply :=
  let result := do
    let outcome := { outcome with warning := ← warning }
    return (outcome, ← record label text outcome)
  match result with
  | .ok (outcome, record) => ⟨delay, .ok outcome, some record⟩
  | .error cause => ⟨delay, .error (.misuse cause), none⟩

/-- The reply to a text on an open connection: its outcome or the loss of the connection. -/
def sendOn (number : Nat) (label : String) (text : Value) (server : Server) : Reply × Server :=
  let kept := (server.notices number).length
  let (response, delay, server) := server.execute number text
  let settle := fun (outcome : Outcome) =>
    let (warning, server) := collect server number kept
    (replyOf delay label text outcome warning, server)
  match response with
  | .ok rows => settle { rows }
  | .error (.misuse cause) => (⟨delay, .error (.misuse cause), none⟩, server)
  | .error (.error .warning report) => (⟨delay, .error (.warning report), none⟩, server)
  | .error (.error kind report) =>
    if kind != .statement && server.isClosed number then
      (⟨delay, .error (.session (.lost label report)), none⟩, server)
    else settle { error := some (Text.trim report) }

/-- The outcome of a text, or the fault of the session. -/
def execute (session : Session) (text : Value) (server : Server) : Reply × Server :=
  match session.connection with
  | none => (⟨.whole 0, .error (.session (.closed session.label)), none⟩, server)
  | some number =>
    if server.isClosed number then
      (⟨.whole 0, .error (.session (.closed session.label)), none⟩, server)
    else sendOn number session.label text server

/-- The server with the session's connection closed. -/
def close (session : Session) (server : Server) : Server :=
  match session.connection with
  | none => server
  | some number => if server.isClosed number then server else server.close number

end Session

end SerialCheck

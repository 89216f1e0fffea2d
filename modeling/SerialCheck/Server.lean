import SerialCheck.History
import SerialCheck.Server.Engine

/-!
# The scripted server

A server keeps numbered connections to one engine and a log of what each was sent. Rules may
delay a text, add notices, and answer it in place of the engine, by rows or by an error that
may also end the connection. At most one rule applies to a text: the first one that concerns
it and whose turn it is.
-/
namespace SerialCheck

/-- The kinds of errors that a client tells apart. -/
inductive ErrorKind where
  /-- Operation of the database, which may include the loss of the connection. -/
  | operational
  /-- Use of the connection. -/
  | interface
  /-- Any other error of a statement. -/
  | statement
  /-- A warning, which is no error of the database. -/
  | warning
  deriving Repr, DecidableEq

/-- How a rule answers. -/
inductive RuleAnswer where
  /-- The engine answers. -/
  | engine
  /-- The given rows, or no result set. It may turn out that the rows cannot be read. -/
  | rows (rows : Except Misuse (Option Rows))
  /-- An error, which may end the connection. It may turn out that there is no such kind. -/
  | failure (kind : Except Misuse ErrorKind) (report : String) (disconnects : Bool)

/-- A rule about the texts that a server is sent. -/
structure Rule where
  /-- The connection that it concerns; all of them if none is given. -/
  connection : Option Value := none
  /-- The text that it concerns. -/
  exact : Option Value := none
  /-- How the texts that it concerns begin. -/
  start : Option Value := none
  /-- What the texts that it concerns contain. -/
  part : Option Value := none
  /-- How many of the texts that it concerns are passed over at first. -/
  skip : Value := .integer 0
  /-- To how many texts it applies; all further ones if it is null. -/
  times : Value := .null
  /-- How long the text takes. -/
  delay : Value := .integer 0
  /-- The notices that the connection receives. -/
  notices : Value := .array []
  /-- How the text is answered. -/
  answer : RuleAnswer := .engine
  /-- How many texts have concerned it so far. -/
  seen : Nat := 0

namespace Rule

/-- The text has the front and the part that the rule asks for. -/
def fits (rule : Rule) (text : Value) : Except Misuse Bool := do
  if ← rule.start.elim (.ok true) text.startsWith then rule.part.elim (.ok true) text.contains
  else return false

/-- The rule concerns a text on a connection. -/
def concerns (rule : Rule) (connection : Nat) (text : Value) : Except Misuse Bool :=
  if rule.connection.all (·.alike (.integer connection)) && rule.exact.all (·.alike text) then
    rule.fits text
  else .ok false

/-- It is the rule's turn at the last text that it has seen. -/
def isDue (rule : Rule) : Except Misuse Bool := do
  if !(← rule.skip.isBelow (.integer rule.seen)) then return false
  match rule.times with
  | .null => return true
  | times => (Value.integer rule.seen).isAtMost (← rule.skip.plus times)

/-- The rule after it has seen a text that concerns it. -/
def noted (rule : Rule) : Rule := { rule with seen := rule.seen + 1 }

/-- The rule that applies to a text, and the rules after they have seen it. Rules behind the one
that applies do not see it, nor do those behind one that cannot tell. -/
def choose (connection : Nat) (text : Value) : List Rule → Except Misuse (Option Rule) × List Rule
  | [] => (.ok none, [])
  | rule :: rules =>
    let pass := fun (rule : Rule) =>
      let (chosen, rules) := choose connection text rules
      (chosen, rule :: rules)
    match rule.concerns connection text with
    | .error cause => (.error cause, rule :: rules)
    | .ok false => pass rule
    | .ok true =>
      match rule.noted.isDue with
      | .error cause => (.error cause, rule.noted :: rules)
      | .ok false => pass rule.noted
      | .ok true => (.ok (some rule.noted), rule.noted :: rules)

end Rule

/-- A connection to the server. -/
structure Connection where
  /-- It has been closed or lost. -/
  closed : Bool := false
  /-- The notices that wait to be collected. -/
  notices : List Value := []
  /-- The open transaction. -/
  work : Option Work := none

/-- What happened on a connection. -/
inductive Event where
  /-- It was asked for. -/
  | connect (address : String)
  /-- It was closed by the client. -/
  | close
  /-- It was sent a text. -/
  | sql (text : Value)
  deriving Repr, DecidableEq

/-- What an event is shown by; the query for the catalog is abbreviated. -/
def Event.shown : Event → Value
  | .connect address => .text ("@connect " ++ address)
  | .close => .text "@close"
  | .sql text => if text = .text schemaQuery then .text "@SCHEMA_QUERY" else text

/-- A server. -/
structure Server where
  /-- The tables. -/
  database : Database := {}
  /-- The rules in the order in which they are tried. -/
  rules : List Rule := []
  /-- The numbers of the connections that are refused, each with the report. -/
  refusals : List (Nat × String) := []
  /-- The connections, the first of them being number one. -/
  connections : List Connection := []
  /-- What happened so far, with the numbers of the connections. -/
  log : History (Nat × Event) := {}

/-- Why a text has no rows for an answer. -/
inductive Refusal where
  /-- It is answered by an error. -/
  | error (kind : ErrorKind) (report : String)
  /-- It cannot be answered. -/
  | misuse (cause : Misuse)

/-- The answer to a text: a refusal, or the rows of a result set. -/
abbrev Response := Except Refusal (Option Rows)

namespace Server

/-- The connection with a number. -/
def connection? (server : Server) (number : Nat) : Option Connection :=
  match number with
  | 0 => none
  | position + 1 => server.connections[position]?

/-- The server with a connection replaced. -/
def setConnection (server : Server) (number : Nat) (connection : Connection) : Server :=
  { server with connections := server.connections.set (number - 1) connection }

/-- The server with an event added to its log. -/
def note (server : Server) (number : Nat) (event : Event) : Server :=
  { server with log := server.log.push (number, event) }

/-- The connection has been closed, lost or never opened. -/
def isClosed (server : Server) (number : Nat) : Bool :=
  (server.connection? number).all Connection.closed

/-- The notices that wait on a connection. -/
def notices (server : Server) (number : Nat) : List Value :=
  (server.connection? number).elim [] Connection.notices

/-- The number of a new connection, or the report of its refusal. -/
def connect (server : Server) (address : String) : Except String Nat × Server :=
  let number := server.connections.length + 1
  let server := server.note number (.connect address)
  match server.refusals.lookup number with
  | some report =>
    (.error report, { server with connections := server.connections ++ [{ closed := true }] })
  | none => (.ok number, { server with connections := server.connections ++ [{}] })

/-- The server with a connection closed by its client. -/
def close (server : Server) (number : Nat) : Server :=
  match server.connection? number with
  | none => server
  | some connection =>
    (server.note number .close).setConnection number { connection with closed := true }

/-- The server with notices added to a connection. -/
def addNotices (server : Server) (number : Nat) (notices : List Value) : Server :=
  match server.connection? number with
  | none => server
  | some connection =>
    server.setConnection number { connection with notices := connection.notices ++ notices }

/-- The server with only the given number of notices left on a connection. -/
def keepNotices (server : Server) (number count : Nat) : Server :=
  match server.connection? number with
  | none => server
  | some connection =>
    server.setConnection number { connection with notices := connection.notices.take count }

/-- The server with a connection lost. -/
def lose (server : Server) (number : Nat) : Server :=
  match server.connection? number with
  | none => server
  | some connection => server.setConnection number { connection with closed := true }

/-- The engine's answer to a text on a connection. -/
def askEngine (server : Server) (number : Nat) (text : String) : Response × Server :=
  match server.connection? number with
  | none => (.ok none, server)
  | some connection =>
    let (answer, engine) := Engine.execute ⟨server.database, connection.work⟩ text
    let server := { server with database := engine.database }
    let server := server.setConnection number { connection with work := engine.work }
    (answer.mapError fun report => .error .statement report, server)

/-- The engine's answer to what a connection is sent, which has to be a text. -/
def ask (server : Server) (number : Nat) : Value → Response × Server
  | .text text => server.askEngine number text
  | other => (.error (.misuse (.operation other.kindName "startswith")), server)

/-- The answer to a text by the rule that applies to it. -/
def answer (server : Server) (number : Nat) (text : Value) (rule : Rule) : Response × Server :=
  match rule.answer with
  | .engine => server.ask number text
  | .rows rows => (rows.mapError .misuse, server)
  | .failure kind report disconnects =>
    (match kind with
      | .ok kind => .error (.error kind report)
      | .error cause => .error (.misuse cause),
      if disconnects then server.lose number else server)

/-- The answer to a text by the rule that applies to it, after its delay and its notices, and how
long it takes. -/
def follow (server : Server) (number : Nat) (text : Value) (rule : Rule) :
    Response × Number × Server :=
  match rule.delay.asIncrease with
  | .error cause => (.error (.misuse cause), .whole 0, server)
  | .ok delay =>
    match rule.notices.each with
    | .error cause => (.error (.misuse cause), delay, server)
    | .ok notices =>
      let (response, server) := (server.addNotices number notices).answer number text rule
      (response, delay, server)

/-- The answer to a text on a connection, how long it takes, and the server after it. -/
def execute (server : Server) (number : Nat) (text : Value) : Response × Number × Server :=
  let server := server.note number (.sql text)
  let (chosen, rules) := Rule.choose number text server.rules
  let server := { server with rules }
  match chosen with
  | .error cause => (.error (.misuse cause), .whole 0, server)
  | .ok none =>
    let (response, server) := server.ask number text
    (response, .whole 0, server)
  | .ok (some rule) => server.follow number text rule

end Server

end SerialCheck

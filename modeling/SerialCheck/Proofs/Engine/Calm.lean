import SerialCheck.Proofs.Scene

/-!
# Calm servers

A server is calm if its rules only delay texts. On an open connection every text is then answered
by the engine, nothing but that connection's transaction and the database changes
(`Server.Became`), and the server stays calm.
-/
namespace SerialCheck

section
variable {ε ζ α : Type} (change : ε → ζ)

theorem mapError_ok (value : α) : (Except.ok value : Except ε α).mapError change = .ok value := rfl

theorem mapError_error (cause : ε) :
    (Except.error cause : Except ε α).mapError change = .error (change cause) := rfl

end

/-- A rule that only delays the texts that it concerns, whatever it has seen. -/
structure Rule.OnlyDelays (rule : Rule) : Prop where
  /-- The engine answers. -/
  answer : rule.answer = .engine
  /-- The delay is a number. -/
  delay : ∃ number, rule.delay.asIncrease = .ok number
  /-- There are no notices. -/
  notices : rule.notices.each = .ok []
  /-- It can tell which texts it concerns. -/
  concerns : ∀ connection text, ∃ answer, rule.concerns connection (.text text) = .ok answer
  /-- It can tell when it is its turn. -/
  due : ∀ seen, ∃ answer, { rule with seen }.isDue = .ok answer

theorem Rule.OnlyDelays.noted {rule : Rule} (only : rule.OnlyDelays) : rule.noted.OnlyDelays where
  answer := only.answer
  delay := only.delay
  notices := only.notices
  concerns := only.concerns
  due := only.due

/-- All rules of the server only delay texts. -/
def Server.Calm (server : Server) : Prop := ∀ rule ∈ server.rules, rule.OnlyDelays

/-- Among rules that only delay texts one is chosen, or none, and they stay such rules. -/
theorem Rule.choose_calm {rules : List Rule} (calm : ∀ rule ∈ rules, rule.OnlyDelays)
    (number : Nat) (text : String) :
    ∃ chosen after, choose number (.text text) rules = (.ok chosen, after) ∧
      (∀ rule ∈ after, rule.OnlyDelays) ∧ ∀ rule, chosen = some rule → rule.OnlyDelays := by
  induction rules with
  | nil => exact ⟨none, [], rfl, by simp, by simp⟩
  | cons rule rules hypothesis =>
    have first : rule.OnlyDelays := calm rule List.mem_cons_self
    obtain ⟨chosen, after, picked, others, good⟩ :=
      hypothesis fun other member => calm other (List.mem_cons_of_mem _ member)
    obtain ⟨concerned, judged⟩ := first.concerns number text
    obtain ⟨due, turn⟩ := first.noted.due rule.noted.seen
    have due' : rule.noted.isDue = .ok due := turn
    rw [choose, judged]
    cases concerned with
    | false =>
      refine ⟨chosen, rule :: after, ?_, ?_, good⟩
      · simp only [picked]
      · exact List.forall_mem_cons.2 ⟨first, others⟩
    | true =>
      simp only [due']
      cases due with
      | false =>
        refine ⟨chosen, rule.noted :: after, ?_, ?_, good⟩
        · simp only [picked]
        · exact List.forall_mem_cons.2 ⟨first.noted, others⟩
      | true =>
        refine ⟨some rule.noted, rule.noted :: rules, rfl, ?_, ?_⟩
        · exact List.forall_mem_cons.2
            ⟨first.noted, fun other member => calm other (List.mem_cons_of_mem _ member)⟩
        · rintro other same
          rw [← Option.some.inj same]
          exact first.noted

namespace Server

variable {server after : Server} {number : Nat} {connection : Connection}

/-- A connection that is replaced is there afterwards, and every other one is as before. -/
theorem connection?_setConnection (present : server.connection? number = some connection)
    (replaced : Connection) (other : Nat) :
    (server.setConnection number replaced).connection? other =
      if other = number then some replaced else server.connection? other := by
  cases number with
  | zero => cases present
  | succ place =>
    have within : place < server.connections.length := (List.getElem?_eq_some_iff.1 present).1
    cases other with
    | zero => simp [connection?]
    | succ position =>
      simp only [connection?, setConnection, Nat.add_sub_cancel, List.getElem?_set,
        Nat.add_right_cancel_iff]
      by_cases same : position = place
      · simp [same, within]
      · simp [same, Ne.symm same]

/-- A connection that is replaced by itself leaves the connections as they are. -/
theorem setConnection_self (present : server.connection? number = some connection) :
    server.setConnection number connection = server := by
  cases number with
  | zero => cases present
  | succ place =>
    have here : server.connections[place]? = some connection := present
    have same : server.connections.set place connection = server.connections := by
      obtain ⟨within, held⟩ := List.getElem?_eq_some_iff.1 here
      rw [← held, List.set_getElem_self]
    rw [setConnection, Nat.add_sub_cancel, same]

/-- No notices are added to a connection. -/
theorem addNotices_nil : server.addNotices number [] = server := by
  unfold addNotices
  split
  · rfl
  next connection present =>
    rw [List.append_nil]
    exact setConnection_self present

/-- The server has another database and one connection replaced, is calm and otherwise as it
was. -/
structure Became (server after : Server) (database : Database) (number : Nat)
    (connection : Connection) : Prop where
  /-- The database. -/
  database : after.database = database
  /-- The connections. -/
  connection : ∀ other, after.connection? other =
    if other = number then some connection else server.connection? other
  /-- The connections that will be refused. -/
  refusals : after.refusals = server.refusals
  /-- The rules only delay texts. -/
  calm : after.Calm

/-- What the engine makes of a text on a connection. -/
def engineAfter (server : Server) (connection : Connection) (text : String) : Answer × Engine :=
  Engine.execute ⟨server.database, connection.work⟩ text

/-- The engine answers a text on a connection, with the work of that connection. -/
theorem askEngine_became (calm : server.Calm)
    (present : server.connection? number = some connection) (text : String) :
    (server.askEngine number text).1 =
        (server.engineAfter connection text).1.mapError (fun report => .error .statement report) ∧
      server.Became (server.askEngine number text).2
        (server.engineAfter connection text).2.database number
        { connection with work := (server.engineAfter connection text).2.work } := by
  unfold askEngine engineAfter
  simp only [present]
  generalize Engine.execute ⟨server.database, connection.work⟩ text = answered
  obtain ⟨answer, engine⟩ := answered
  have there : ({ server with database := engine.database } : Server).connection? number =
      some connection := present
  exact ⟨trivial, rfl, connection?_setConnection there _, rfl, calm⟩

/-- A calm server has the engine answer a text on a connection. -/
theorem execute_became (calm : server.Calm)
    (present : server.connection? number = some connection) (text : String) :
    ∃ delay after, server.execute number (.text text) =
        ((server.engineAfter connection text).1.mapError (fun report => .error .statement report),
          delay, after) ∧
      server.Became after (server.engineAfter connection text).2.database number
        { connection with work := (server.engineAfter connection text).2.work } := by
  obtain ⟨chosen, rules, picked, others, good⟩ := Rule.choose_calm calm number text
  let noted : Server := { server.note number (.sql (.text text)) with rules }
  have still : noted.Calm := others
  have there : noted.connection? number = some connection := present
  have ready : server.engineAfter connection text = noted.engineAfter connection text := rfl
  obtain ⟨response, later, asked⟩ : ∃ response later,
      noted.askEngine number text = (response, later) := ⟨_, _, rfl⟩
  have answered := askEngine_became still there text
  rw [asked, ← ready] at answered
  obtain ⟨same, became⟩ := answered
  have told : noted.ask number (.text text) = (response, later) := asked
  have chose : Rule.choose number (.text text) (server.note number (.sql (.text text))).rules =
      (.ok chosen, rules) := picked
  have follows : server.Became later (server.engineAfter connection text).2.database number
      { connection with work := (server.engineAfter connection text).2.work } :=
    ⟨became.database, became.connection, became.refusals, became.calm⟩
  rw [execute, chose, ← same]
  cases chosen with
  | none =>
    simp only [noted] at told
    simp only [told]
    exact ⟨.whole 0, later, rfl, follows⟩
  | some rule =>
    have only := good rule rfl
    obtain ⟨delay, increase⟩ := only.delay
    simp only [noted] at told
    simp only [follow, increase, only.notices, answer, only.answer, addNotices_nil, told]
    exact ⟨delay, later, rfl, follows⟩

/-- Without rules every text is answered at once, and there are none afterwards. -/
theorem execute_quiet (quiet : server.rules = []) (number : Nat) (text : String) :
    ∃ response after, server.execute number (.text text) = (response, .whole 0, after) ∧
      after.rules = [] := by
  have chose : Rule.choose number (.text text) (server.note number (.sql (.text text))).rules =
      (.ok none, []) := by
    show Rule.choose number (.text text) server.rules = _
    rw [quiet]
    rfl
  rw [execute, chose]
  simp only [ask, askEngine]
  generalize found : connection? _ number = connection
  cases connection with
  | none => exact ⟨_, _, rfl, rfl⟩
  | some connection =>
    simp only
    generalize Engine.execute _ text = answered
    exact ⟨_, _, rfl, rfl⟩

end Server

/-- The outcome of a session whose text the engine answered. -/
def Outcome.ofAnswer : Answer → Outcome
  | .ok rows => { rows }
  | .error report => { error := some (Text.trim report) }

/-- The session uses an open connection of the server. -/
structure Session.Uses (session : Session) (server : Server) (number : Nat)
    (connection : Connection) : Prop where
  /-- The session has that connection. -/
  named : session.connection = some number
  /-- The server has it. -/
  present : server.connection? number = some connection
  /-- It is open. -/
  alive : connection.closed = false

namespace Session

variable {session : Session} {server after : Server} {number : Nat} {connection : Connection}

theorem Uses.isClosed_eq_false (uses : session.Uses server number connection) :
    server.isClosed number = false := by
  rw [Server.isClosed, uses.present]
  exact uses.alive

theorem Uses.not_isClosed (uses : session.Uses server number connection) :
    session.isClosed server = false := by
  rw [Session.isClosed, uses.named]
  exact uses.isClosed_eq_false

/-- A session that is not closed uses an open connection. -/
theorem exists_uses (opened : session.isClosed server = false) :
    ∃ number connection, session.Uses server number connection := by
  unfold isClosed Server.isClosed at opened
  cases named : session.connection with
  | none => simp [named] at opened
  | some number =>
    rw [named, Option.all_some] at opened
    cases present : server.connection? number with
    | none => simp [present] at opened
    | some connection =>
      exact ⟨number, connection, named, present, by simpa [present] using opened⟩

/-- Nothing is sent over a closed session. -/
theorem execute_of_isClosed (closed : session.isClosed server = true) (text : Value) :
    session.execute text server =
      (⟨.whole 0, .error (.session (.closed session.label)), none⟩, server) := by
  unfold isClosed at closed
  unfold execute
  cases named : session.connection with
  | none => rfl
  | some number =>
    rw [named, Option.all_some] at closed
    simp only [closed, ↓reduceIte]

/-- An outcome without a warning is replied with as it is. -/
theorem replyOf_text (delay : Number) (label text : String) (outcome : Outcome)
    (quiet : outcome.warning = none) :
    ∃ record, replyOf delay label (.text text) outcome (.ok none) = ⟨delay, .ok outcome, record⟩ := by
  obtain ⟨rows, error, warning⟩ := outcome
  cases quiet
  cases error <;> exact ⟨_, rfl⟩

/-- Nothing is collected from a connection that has received no notices. -/
theorem collect_kept (present : after.connection? number = some connection) :
    collect after number connection.notices.length = (.ok none, after) := by
  have held : after.notices number = connection.notices := by rw [Server.notices, present]; rfl
  have kept : after.keepNotices number connection.notices.length = after := by
    unfold Server.keepNotices
    simp only [present, List.take_length]
    exact Server.setConnection_self present
  rw [collect, held, kept, List.drop_length]
  rfl

/-- Over an open connection of a calm server a text has the outcome of the engine's answer. -/
theorem execute_became (calm : server.Calm) (uses : session.Uses server number connection)
    (text : String) :
    ∃ delay record after, session.execute (.text text) server =
        (⟨delay, .ok (.ofAnswer (server.engineAfter connection text).1), record⟩, after) ∧
      server.Became after (server.engineAfter connection text).2.database number
        { connection with work := (server.engineAfter connection text).2.work } := by
  obtain ⟨delay, after, answered, became⟩ := Server.execute_became calm uses.present text
  have noticed : (server.notices number).length = connection.notices.length := by
    rw [Server.notices, uses.present]
    rfl
  have there : after.connection? number =
      some { connection with work := (server.engineAfter connection text).2.work } := by
    rw [became.connection, if_pos rfl]
  have collected := collect_kept there
  rw [execute, uses.named]
  simp only [uses.isClosed_eq_false, Bool.false_eq_true, ↓reduceIte]
  unfold sendOn
  rw [answered, noticed]
  generalize server.engineAfter connection text = reply at collected became ⊢
  obtain ⟨answer, engine⟩ := reply
  cases answer with
  | ok rows =>
    simp only [mapError_ok, collected]
    obtain ⟨record, replied⟩ := replyOf_text delay session.label text { rows } rfl
    exact ⟨delay, record, after, Prod.ext replied rfl, became⟩
  | error report =>
    simp only [mapError_error, collected, bne_self_eq_false, Bool.false_and, Bool.false_eq_true,
      ↓reduceIte]
    obtain ⟨record, replied⟩ :=
      replyOf_text delay session.label text { error := some (Text.trim report) } rfl
    exact ⟨delay, record, after, Prod.ext replied rfl, became⟩

/-- Without rules every reply is there at once, and there are none afterwards. -/
theorem execute_quiet (quiet : server.rules = []) (text : String) :
    (session.execute (.text text) server).1.delay = .whole 0 ∧
      (session.execute (.text text) server).2.rules = [] := by
  have delayed : ∀ label outcome warning,
      (replyOf (.whole 0) label (.text text) outcome warning).delay = .whole 0 := by
    intro label outcome warning
    simp only [replyOf]
    split <;> rfl
  have kept : ∀ (server : Server) number count, server.rules = [] →
      (server.keepNotices number count).rules = [] := by
    intro server number count none
    unfold Server.keepNotices
    split
    · exact none
    · exact none
  unfold execute
  split
  · exact ⟨rfl, quiet⟩
  · split
    · exact ⟨rfl, quiet⟩
    · next number _ _ =>
      obtain ⟨response, after, answered, none⟩ := Server.execute_quiet quiet number text
      simp only [sendOn, answered, collect]
      split
      · exact ⟨delayed _ _ _, kept _ _ _ none⟩
      · exact ⟨rfl, none⟩
      · exact ⟨rfl, none⟩
      · split
        · exact ⟨rfl, none⟩
        · exact ⟨delayed _ _ _, kept _ _ _ none⟩

end Session

end SerialCheck

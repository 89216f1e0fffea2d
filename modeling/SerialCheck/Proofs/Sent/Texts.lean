import SerialCheck.Proofs.Interleaved.Records
import SerialCheck.Proofs.Setup.Opening

/-!
# What a server was sent

The log of a server holds every text that it was sent, with the number of the connection. Whatever rules
and the engine make of a text, the log gains that one entry (`Server.register_execute`), so that what was
sent over a session can be read off it (`Session.texts`). What a trace says was sent over the session of
a transaction is `Trace.textsOf`.
-/
namespace SerialCheck

namespace Server

/-- The log of a server and the number of its connections. -/
def register (server : Server) : List (Nat × Event) × Nat :=
  (server.log.toList, server.connections.length)

variable (server : Server) (number : Nat)

@[simp] theorem register_setConnection (connection : Connection) :
    (server.setConnection number connection).register = server.register := by
  simp [register, setConnection]

@[simp] theorem register_addNotices (notices : List Value) :
    (server.addNotices number notices).register = server.register := by
  unfold addNotices
  split
  · rfl
  · exact register_setConnection ..

@[simp] theorem register_keepNotices (count : Nat) :
    (server.keepNotices number count).register = server.register := by
  unfold keepNotices
  split
  · rfl
  · exact register_setConnection ..

@[simp] theorem register_lose : (server.lose number).register = server.register := by
  unfold lose
  split
  · rfl
  · exact register_setConnection ..

/-- The engine leaves the log alone. -/
@[simp] theorem register_ask (text : Value) : (server.ask number text).2.register = server.register := by
  cases text with
  | text text =>
    show (server.askEngine number text).2.register = _
    unfold askEngine
    split
    · rfl
    next connection _ =>
      generalize Engine.execute ⟨server.database, connection.work⟩ text = answered
      exact register_setConnection ..
  | _ => rfl

/-- So does a rule. -/
@[simp] theorem register_follow (text : Value) (rule : Rule) :
    (server.follow number text rule).2.2.register = server.register := by
  unfold follow
  split
  · rfl
  · split
    · rfl
    next notices _ =>
      have answered : ((server.addNotices number notices).answer number text rule).2.register =
          server.register := by
        unfold answer
        split
        · rw [register_ask, register_addNotices]
        · exact register_addNotices ..
        · dsimp only
          split <;> simp
      exact answered

/-- What is sent over a connection is logged, once, and nothing else is. -/
theorem register_execute (text : Value) : (server.execute number text).2.2.register =
    (server.log.toList ++ [(number, .sql text)], server.connections.length) := by
  have noted : ∀ rules, ({ server.note number (.sql text) with rules } : Server).register =
      (server.log.toList ++ [(number, .sql text)], server.connections.length) := by
    intro rules
    simp [register, note]
  obtain ⟨chosen, rules, choice⟩ : ∃ chosen rules,
      Rule.choose number text (server.note number (.sql text)).rules = (chosen, rules) := ⟨_, _, rfl⟩
  rw [execute, choice, ← noted rules]
  cases chosen with
  | error cause => rfl
  | ok rule =>
    cases rule with
    | none => exact register_ask ..
    | some rule => exact register_follow ..

end Server

namespace Session

/-- The text of an entry of the log that is about the session. -/
def textOf? (session : Session) : Nat × Event → Option Value
  | (number, .sql text) => if session.connection = some number then some text else none
  | _ => none

/-- The texts that a server was sent over a session, in order. -/
def texts (session : Session) (server : Server) : List Value :=
  server.log.toList.filterMap session.textOf?

/-- What the log gains when a text is sent over a session: nothing if the session is closed. -/
def entries (session : Session) (server : Server) (text : Value) : List (Nat × Event) :=
  if session.isClosed server then [] else session.connection.toList.map (·, .sql text)

variable {session other : Session} {server after : Server} {text : Value}

/-- Whatever becomes of a text that is sent, the log gains its entry. -/
theorem register_execute (session : Session) (text : Value) (server : Server) :
    (session.execute text server).2.register =
      (server.log.toList ++ session.entries server text, server.connections.length) := by
  cases opened : session.isClosed server with
  | true =>
    rw [execute_of_isClosed opened, entries, opened]
    simp [Server.register]
  | false =>
    obtain ⟨number, connection, uses⟩ := exists_uses opened
    have logged := server.register_execute number text
    rw [entries, opened, execute, uses.named]
    simp only [uses.isClosed_eq_false, Bool.false_eq_true, ↓reduceIte, Option.toList_some,
      List.map_cons, List.map_nil]
    rw [← logged]
    unfold sendOn
    generalize server.execute number text = answered
    obtain ⟨response, delay, after⟩ := answered
    have settled : ∀ kept, (collect after number kept).2.register = after.register := fun kept =>
      after.register_keepNotices number kept
    simp only
    split
    · exact settled _
    · rfl
    · rfl
    · split
      · rfl
      · exact settled _

/-- The entry is about the session over which the text was sent. -/
theorem filterMap_entries (session other : Session) (server : Server) (text : Value) :
    (other.entries server text).filterMap session.textOf? =
      if other.isClosed server = false ∧ session.connection = other.connection then [text] else [] := by
  unfold entries
  cases opened : other.isClosed server with
  | true => simp
  | false =>
    obtain ⟨number, _, uses⟩ := exists_uses opened
    rw [uses.named]
    by_cases same : session.connection = some number <;> simp [textOf?, same]

/-- A text over a session is the next one that the server was sent over it. -/
theorem texts_execute (session other : Session) (text : Value) (server : Server) :
    session.texts (other.execute text server).2 = session.texts server ++
      if other.isClosed server = false ∧ session.connection = other.connection then [text] else [] := by
  have logged := congrArg Prod.fst (register_execute other text server)
  rw [← filterMap_entries session other server text, texts,
    show (other.execute text server).2.log.toList = _ from logged, List.filterMap_append]
  rfl

/-- Nothing is sent over other sessions. -/
theorem texts_execute_other (apart : session.connection ≠ other.connection) (text : Value)
    (server : Server) : session.texts (other.execute text server).2 = session.texts server := by
  rw [texts_execute, if_neg fun both => apart both.2, List.append_nil]

/-- Nothing is replied with an outcome over a closed session. -/
theorem isClosed_of_reply {outcome : Outcome}
    (replied : (session.execute text server).1.result = .ok outcome) :
    session.isClosed server = false := by
  rw [Bool.eq_false_iff]
  intro closed
  rw [execute_of_isClosed closed] at replied
  cases replied

/-- What is replied to with an outcome was sent. -/
theorem texts_execute_own {outcome : Outcome}
    (replied : (session.execute text server).1.result = .ok outcome) :
    session.texts (session.execute text server).2 = session.texts server ++ [text] := by
  rw [texts_execute, if_pos ⟨isClosed_of_reply replied, rfl⟩]

end Session

/-- The texts of the statements that were executed. -/
def executedTexts (results : List StatementResult) : List Value :=
  (results.filter fun result => decide (result.executed = .boolean true)).map (·.statement.text)

namespace Trace

/-- The texts that were sent over the session of a transaction according to a trace: those of its
executed results and, if it was aborted, a rollback. -/
def textsOf (trace : Trace) (id : Value) : List Value :=
  executedTexts (trace.resultsOf id) ++
    if (trace.abortOf? id).isSome then [.text Bench.rollbackText] else []

variable {trace : Trace} {id : Value} {result : StatementResult}

theorem resultsOf_record (own : result.statement.transaction = id) :
    (trace.record result).resultsOf id = trace.resultsOf id ++ [result] := by
  simp [resultsOf, record, own, Value.alike_refl]

/-- Before an abort a further result accounts for its text if it is executed. -/
theorem textsOf_record (own : result.statement.transaction = id) (going : trace.abortOf? id = none) :
    (trace.record result).textsOf id = trace.textsOf id ++ executedTexts [result] := by
  have still : (trace.record result).abortOf? id = none := going
  rw [textsOf, textsOf, resultsOf_record own, still, going]
  simp [executedTexts]

/-- An abort accounts for a rollback. -/
theorem textsOf_abort (going : trace.abortOf? id = none) (place : Value) :
    (Run.abort trace id place).textsOf id = trace.textsOf id ++ [.text Bench.rollbackText] := by
  have aborted : (Run.abort trace id place).abortOf? id = some place :=
    Value.lookup_put_self id place trace.abortedAt
  have results : (Run.abort trace id place).resultsOf id = trace.resultsOf id := rfl
  rw [textsOf, textsOf, aborted, going, results]
  simp

end Trace

end SerialCheck

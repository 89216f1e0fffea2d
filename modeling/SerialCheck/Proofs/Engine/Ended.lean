import SerialCheck.Proofs.Engine.Proper

/-!
# What a text over a session comes to

On a server with proper rules the result of a text over a session tells whether the connection is open,
but for errors of statements (`Session.tells`). It takes no time, or as long as a rule says
(`Session.delay_of_rule`).
-/
namespace SerialCheck

namespace Session

/-- The server answers a text over the session by an error of a statement. -/
def MeetsError (session : Session) (text : Value) (server : Server) : Prop :=
  ∃ number report, session.connection = some number ∧
    (server.execute number text).1 = .error (.error .statement report)

variable {session : Session} {server : Server}

/-- A session is closed exactly if it does not use an open connection. -/
theorem isClosed_or_uses (session : Session) (server : Server) :
    session.isClosed server = true ∨
      ∃ number connection, session.Uses server number connection := by
  cases closed : session.isClosed server with
  | true => exact .inl rfl
  | false => exact .inr (exists_uses closed)

/-- A text over a closed session is a fault of the session. -/
theorem result_of_isClosed (closed : session.isClosed server = true) (text : Value) :
    (session.execute text server).1.result = .error (.session (.closed session.label)) := by
  rw [execute_of_isClosed closed]

/-- Over an open session a text is a fault exactly if the connection is closed afterwards and the
answer is no error of a statement. -/
theorem result_of_uses (proper : server.Proper) {number : Nat} {connection : Connection}
    (uses : session.Uses server number connection) (text : String) :
    (∃ report, (session.execute (.text text) server).1.result =
        .error (.session (.lost session.label report)) ∧
          session.isClosed (session.execute (.text text) server).2 = true ∧
            ¬ session.MeetsError (.text text) server) ∨
      (∃ outcome, (session.execute (.text text) server).1.result = .ok outcome) ∧
        (session.isClosed (session.execute (.text text) server).2 = true →
          session.MeetsError (.text text) server) := by
  obtain ⟨response, delay, told, replaced, warning, kept, executed, tells, _, result, changed,
    same⟩ := execute_told proper uses text
  have closed : session.isClosed (session.execute (.text text) server).2 = replaced.closed := by
    rw [isClosed, uses.named, Option.all_some, Server.isClosed, changed.connection, if_pos rfl]
    exact same
  have meets : session.MeetsError (.text text) server ↔
      ∃ report, response = .error (.error .statement report) := by
    constructor
    · rintro ⟨other, report, named, refused⟩
      rw [uses.named] at named
      cases named
      rw [executed] at refused
      exact ⟨report, refused⟩
    · rintro ⟨report, refused⟩
      exact ⟨number, report, uses.named, by rw [executed, refused]⟩
  rw [result, closed, meets]
  cases response with
  | ok rows =>
    refine .inr ⟨⟨_, rfl⟩, fun lost => ?_⟩
    rcases tells.closed lost with before | ⟨_, _, impossible⟩
    · rw [uses.alive] at before
      cases before
    · cases impossible
  | error refusal =>
    obtain ⟨kind, report, rfl, error⟩ := tells.refusal refusal rfl
    cases kind with
    | warning => exact absurd rfl error
    | statement => exact .inr ⟨⟨_, rfl⟩, fun _ => ⟨report, rfl⟩⟩
    | _ =>
      cases lost : replaced.closed with
      | true => exact .inl ⟨report, rfl, rfl, by simp⟩
      | false => exact .inr ⟨⟨_, rfl⟩, fun impossible => by cases impossible⟩

/-- A text over a session takes no time, or as long as a rule says. -/
theorem delay_of_rule (proper : server.Proper) (session : Session) (text : String) :
    (session.execute (.text text) server).1.delay = .whole 0 ∨
      ∃ rule ∈ server.rules,
        rule.delay.asIncrease = .ok (session.execute (.text text) server).1.delay := by
  rcases session.isClosed_or_uses server with closed | ⟨number, connection, uses⟩
  · rw [execute_of_isClosed closed]
    exact .inl rfl
  · obtain ⟨_, delay, _, _, _, _, _, told, same, _⟩ := execute_told proper uses text
    rw [same]
    exact told.delay.imp id fun ⟨rule, member, _, gives⟩ => ⟨rule, member, gives⟩

/-- The only faults of a text over a session are that the session is closed or that the connection was
lost. -/
theorem fault_eq (proper : server.Proper) {text : String} {fault : Fault}
    (failed : (session.execute (.text text) server).1.result = .error fault) :
    fault = .session (.closed session.label) ∨
      ∃ report, fault = .session (.lost session.label report) := by
  rcases session.isClosed_or_uses server with closed | ⟨number, connection, uses⟩
  · rw [result_of_isClosed closed] at failed
    cases failed
    exact .inl rfl
  · rcases result_of_uses proper uses text with ⟨report, lost, _⟩ | ⟨⟨outcome, fine⟩, _⟩
    · cases lost.symm.trans failed
      exact .inr ⟨report, rfl⟩
    · rw [fine] at failed
      cases failed

/-- The result of a text tells whether the connection is open, but for errors of statements. -/
structure Tells (session : Session) (text : String) (server : Server) : Prop where
  /-- There is an outcome or a fault of the session. -/
  ends : (∃ outcome, (session.execute (.text text) server).1.result = .ok outcome) ∨
    ∃ cause, (session.execute (.text text) server).1.result = .error (.session cause)
  /-- It is a fault exactly if the session was closed before, or is closed afterwards and met no error
  of a statement. -/
  fault : (∃ cause, (session.execute (.text text) server).1.result = .error (.session cause)) ↔
    session.isClosed server = true ∨
      session.isClosed (session.execute (.text text) server).2 = true ∧
        ¬ session.MeetsError (.text text) server

/-- On a server with proper rules it does. -/
theorem tells (proper : server.Proper) (session : Session) (text : String) :
    session.Tells text server := by
  rcases session.isClosed_or_uses server with closed | ⟨number, connection, uses⟩
  · have fault := result_of_isClosed closed (.text text)
    exact ⟨.inr ⟨_, fault⟩, ⟨fun _ => .inl closed, fun _ => ⟨_, fault⟩⟩⟩
  · have opened := uses.not_isClosed
    rcases result_of_uses proper uses text with ⟨report, fault, lost, calm⟩ | ⟨⟨outcome, fine⟩, met⟩
    · exact ⟨.inr ⟨_, fault⟩, ⟨fun _ => .inr ⟨lost, calm⟩, fun _ => ⟨_, fault⟩⟩⟩
    · refine ⟨.inl ⟨outcome, fine⟩, ⟨?_, ?_⟩⟩
      · rintro ⟨cause, fault⟩
        rw [fine] at fault
        cases fault
      · rintro (closed | ⟨lost, calm⟩)
        · rw [opened] at closed
          cases closed
        · exact absurd (met lost) calm

/-- So an outcome comes from an open connection, which is still open unless there was an error of a
statement. -/
theorem Tells.of_outcome {text : String} (tells : session.Tells text server) {outcome : Outcome}
    (answered : (session.execute (.text text) server).1.result = .ok outcome) :
    session.isClosed server = false ∧
      (session.isClosed (session.execute (.text text) server).2 = true →
        session.MeetsError (.text text) server) := by
  have fine : ¬ ∃ cause, (session.execute (.text text) server).1.result = .error (.session cause) := by
    rintro ⟨cause, fault⟩
    rw [answered] at fault
    cases fault
  have neither := fun lost => fine (tells.fault.2 lost)
  refine ⟨Bool.eq_false_iff.2 fun closed => neither (.inl closed), fun lost => ?_⟩
  by_contra calm
  exact neither (.inr ⟨lost, calm⟩)

/-- A text that leaves its session open has an outcome. -/
theorem Tells.answered {text : String} (tells : session.Tells text server)
    (opened : session.isClosed (session.execute (.text text) server).2 = false) :
    ∃ outcome, (session.execute (.text text) server).1.result = .ok outcome := by
  refine tells.ends.resolve_right fun fault => ?_
  rcases tells.fault.1 fault with closed | ⟨lost, _⟩
  · rw [execute_of_isClosed closed, closed] at opened
    cases opened
  · rw [opened] at lost
    cases lost

/-- Where no rule ends a connection, whatever text is sent leaves every open session open. -/
theorem IsOpen.execute {other : Session} (opened : other.IsOpen server) (proper : server.Proper)
    (holds : server.Holds) (session : Session) (text : String) :
    other.IsOpen (session.execute (.text text) server).2 := by
  rcases session.isClosed_or_uses server with closed | ⟨number, connection, uses⟩
  · rw [execute_of_isClosed closed]
    exact opened
  · obtain ⟨_, _, _, replaced, _, kept, _, told, _, _, changed, same⟩ :=
      execute_told proper uses text
    have alive : kept.closed = false := by
      rw [same, Bool.eq_false_iff]
      intro lost
      rcases told.closed lost with before | ⟨⟨rule, member, ends⟩, _⟩
      · rw [uses.alive] at before
        cases before
      · exact holds rule member ends
    exact changed.isOpen alive opened

end Session

end SerialCheck

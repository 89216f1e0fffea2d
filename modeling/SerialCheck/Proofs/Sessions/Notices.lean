import SerialCheck.Proofs.Engine.Proper
import SerialCheck.Proofs.Sessions.Closings

/-!
# Notices are reported once

While a text is answered its connection receives notices behind those that wait there
(`Server.receives_execute`). A session that replies with an outcome takes exactly these off again and makes
them the warning (`Session.execute_returns`), whether the text was answered by rows or by an error. So over a
course of texts that are answered by rows or by errors every outcome leaves the notices that waited at first
(`Session.reports_notices_once`).
-/
namespace SerialCheck

/-! ## Blanks at the end -/

namespace Text

/-- A character that is dropped at the end may stand there. -/
theorem trimWhile_append {test : Char → Bool} {char : Char} (dropped : test char = true) (chars : List Char) :
    trimWhile test (chars ++ [char]) = trimWhile test chars := by
  have alone : [char].dropWhile test = [] := by rw [List.dropWhile_cons, if_pos dropped, List.dropWhile_nil]
  rw [trimWhile, trimWhile, List.dropWhile_append]
  cases kept : chars.dropWhile test with
  | nil => rw [List.isEmpty_nil, if_pos rfl, alone]
  | cons first rest =>
    rw [List.isEmpty_cons, if_neg Bool.false_ne_true, dropEndWhile, List.reverse_append, List.reverse_singleton,
      List.singleton_append, List.dropWhile_cons, if_pos dropped]
    rfl

/-- A line break at the end is blank. -/
theorem trim_append_newline (text : String) : trim (text ++ "\n") = trim text := by
  rw [trim, trim, String.toList_append]
  exact congrArg String.ofList (trimWhile_append (by decide) text.toList)

/-- Lines that are all ended are lines with breaks between them and one at the end. -/
theorem join_ended {lines : List String} (some_there : lines ≠ []) :
    String.join (lines.map (· ++ "\n")) = "\n".intercalate lines ++ "\n" := by
  induction lines with
  | nil => exact absurd rfl some_there
  | cons line lines hypothesis =>
    cases lines with
    | nil => simp
    | cons next lines =>
      rw [String.intercalate_cons_cons, List.map_cons, String.join_cons, hypothesis (List.cons_ne_nil _ _)]
      simp only [String.append_assoc]

end Text

/-! ## What a connection receives -/

namespace Server

/-- What waited on the connection waits there still, with what it has received behind it. -/
def Receives (server after : Server) (number : Nat) : Prop :=
  ∃ added, after.notices number = server.notices number ++ added

/-- The text is answered by rows or by an error of the database, of its operation or of its use. -/
def Answers (server : Server) (number : Nat) (text : Value) : Prop :=
  ∀ refusal, (server.execute number text).1 = .error refusal →
    ∃ kind report, refusal = .error kind report ∧ kind ≠ .warning

variable {server between after : Server} {number : Nat} {connection : Connection}

namespace Receives

theorem of_notices (same : after.notices number = server.notices number) : server.Receives after number :=
  ⟨[], by rw [same, List.append_nil]⟩

theorem trans (first : server.Receives between number) (second : between.Receives after number) :
    server.Receives after number := by
  obtain ⟨early, before⟩ := first
  obtain ⟨late, behind⟩ := second
  exact ⟨early ++ late, by rw [behind, before, List.append_assoc]⟩

end Receives

theorem notices_of_present (present : server.connection? number = some connection) :
    server.notices number = connection.notices := by
  rw [notices, present]
  rfl

/-- On a connection that is replaced the notices of the new one wait. -/
theorem notices_setConnection (present : server.connection? number = some connection) (replaced : Connection) :
    (server.setConnection number replaced).notices number = replaced.notices :=
  notices_of_present ((connection?_setConnection present replaced number).trans (if_pos rfl))

theorem receives_addNotices (server : Server) (number : Nat) (notices : List Value) :
    server.Receives (server.addNotices number notices) number := by
  unfold addNotices
  split
  · exact .of_notices rfl
  next connection present =>
    refine ⟨notices, ?_⟩
    rw [notices_setConnection present, notices_of_present present]

theorem receives_lose (server : Server) (number : Nat) : server.Receives (server.lose number) number := by
  unfold lose
  split
  · exact .of_notices rfl
  next connection present =>
    exact .of_notices ((notices_setConnection present _).trans (notices_of_present present).symm)

/-- The engine sends no notices. -/
theorem receives_ask (server : Server) (number : Nat) (text : Value) :
    server.Receives (server.ask number text).2 number := by
  cases text with
  | text text =>
    show server.Receives (server.askEngine number text).2 number
    unfold askEngine
    split
    · exact .of_notices rfl
    next connection present =>
      generalize Engine.execute ⟨server.database, connection.work⟩ text = answered
      have there : ({ server with database := answered.2.database } : Server).connection? number =
          some connection := present
      exact .of_notices ((notices_setConnection there _).trans (notices_of_present present).symm)
  | _ => exact .of_notices rfl

/-- A rule sends its notices, whatever it answers by. -/
theorem receives_follow (server : Server) (number : Nat) (text : Value) (rule : Rule) :
    server.Receives (server.follow number text rule).2.2 number := by
  unfold follow
  split
  · exact .of_notices rfl
  · split
    · exact .of_notices rfl
    next notices _ =>
      refine (server.receives_addNotices number notices).trans ?_
      show (server.addNotices number notices).Receives
        ((server.addNotices number notices).answer number text rule).2 number
      unfold answer
      split
      · exact receives_ask ..
      · exact .of_notices rfl
      · dsimp only
        split
        · exact receives_lose ..
        · exact .of_notices rfl

/-- While a text is answered its connection only receives notices. -/
theorem receives_execute (server : Server) (number : Nat) (text : Value) :
    server.Receives (server.execute number text).2.2 number := by
  obtain ⟨chosen, rules, choice⟩ : ∃ chosen rules,
      Rule.choose number text (server.note number (.sql text)).rules = (chosen, rules) := ⟨_, _, rfl⟩
  have noted : server.Receives { server.note number (.sql text) with rules } number := .of_notices rfl
  rw [execute, choice]
  cases chosen with
  | error cause => exact noted
  | ok rule =>
    cases rule with
    | none => exact noted.trans (receives_ask ..)
    | some rule => exact noted.trans (receives_follow ..)

/-- As many notices are left as are to be kept. -/
theorem notices_keepNotices (server : Server) (number count : Nat) :
    (server.keepNotices number count).notices number = (server.notices number).take count := by
  unfold keepNotices
  split
  next missing =>
    rw [notices, missing]
    exact (List.take_nil).symm
  next connection present => rw [notices_setConnection present, notices_of_present present]

end Server

/-! ## What becomes of them -/

namespace Session

variable {session : Session} {start server after : Server} {number : Nat}

/-- Notices that can be trimmed are texts. -/
theorem of_mapM_trimNotice {notices : List Value} {lines : List String}
    (trimmed : notices.mapM trimNotice = .ok lines) :
    ∃ texts : List String, notices = texts.map .text ∧ lines = texts.map Text.trim := by
  induction notices generalizing lines with
  | nil =>
    cases trimmed
    exact ⟨[], rfl, rfl⟩
  | cons notice notices hypothesis =>
    rw [List.mapM_cons] at trimmed
    cases notice with
    | text text =>
      cases others : notices.mapM trimNotice with
      | error cause =>
        rw [others] at trimmed
        cases trimmed
      | ok rest =>
        rw [others] at trimmed
        cases trimmed
        obtain ⟨texts, rfl, rfl⟩ := hypothesis others
        exact ⟨text :: texts, rfl, rfl⟩
    | _ => cases trimmed

/-- A warning says what the notices say: nothing if there is none, and else each of them without blanks around
it, on lines of its own. -/
structure Reports (warning : Option String) (notices : List String) : Prop where
  /-- There is a warning exactly if there is a notice. -/
  none : warning = .none ↔ notices = []
  /-- It consists of the notices in order. -/
  some : notices ≠ [] → warning = .some (Text.trim ("\n".intercalate (notices.map Text.trim)))

/-- A warning that notices amount to reports them, and they are texts. -/
theorem reports_of_warningOf {notices : List Value} {warning : Option String}
    (given : warningOf notices = .ok warning) :
    ∃ texts : List String, notices = texts.map .text ∧ Reports warning texts := by
  cases notices with
  | nil =>
    cases given
    exact ⟨[], rfl, iff_of_true rfl rfl, fun some_there => absurd rfl some_there⟩
  | cons notice notices =>
    have shape : warningOf (notice :: notices) = (do
        let lines ← (notice :: notices).mapM trimNotice
        return some (Text.trim (String.join (lines.map (· ++ "\n"))))) := rfl
    rw [shape] at given
    cases trimmed : (notice :: notices).mapM trimNotice with
    | error cause =>
      rw [trimmed] at given
      cases given
    | ok lines =>
      rw [trimmed] at given
      cases given
      obtain ⟨texts, same, rfl⟩ := of_mapM_trimNotice trimmed
      have some_there : texts ≠ [] := by
        rintro rfl
        cases same
      refine ⟨texts, same, iff_of_false (Option.some_ne_none _) some_there, fun _ => ?_⟩
      rw [Text.join_ended (by simpa using some_there), Text.trim_append_newline]

/-- A reply gives an outcome with its warning or a misuse. -/
theorem replyOf_cases (delay : Number) (label : String) (text : Value) (settled : Outcome)
    (warning : Except Misuse (Option String)) :
    (∃ given, warning = .ok given ∧
        (replyOf delay label text settled warning).result = .ok { settled with warning := given }) ∨
      ∃ cause, (replyOf delay label text settled warning).result = .error (.misuse cause) := by
  cases warning with
  | error cause => exact .inr ⟨cause, rfl⟩
  | ok given =>
    unfold replyOf
    cases recorded : record label text { settled with warning := given } with
    | error cause =>
      simp only [recorded, bind, Except.bind]
      exact .inr ⟨cause, rfl⟩
    | ok shown =>
      simp only [recorded, bind, Except.bind]
      exact .inl ⟨given, rfl, rfl⟩

/-- Notices beyond those that waited are taken off. -/
theorem notices_collect (received : server.Receives after number) :
    (collect after number (server.notices number).length).2.notices number = server.notices number := by
  obtain ⟨added, waiting⟩ := received
  have taken : (collect after number (server.notices number).length).2.notices number =
      (after.notices number).take (server.notices number).length := Server.notices_keepNotices ..
  rw [taken, waiting, List.take_left]

/-- They are reported, if an outcome is replied with. -/
theorem collect_returns {delay : Number} {label : String} {text : Value} {settled outcome : Outcome}
    (received : server.Receives after number)
    (returned : (replyOf delay label text settled
      (collect after number (server.notices number).length).1).result = .ok outcome) :
    ∃ added : List String, after.notices number = server.notices number ++ added.map .text ∧
      Reports outcome.warning added := by
  obtain ⟨added, waiting⟩ := received
  have warned : warningOf added = .ok outcome.warning := by
    rcases replyOf_cases delay label text settled
        (collect after number (server.notices number).length).1 with ⟨given, warning, result⟩ | ⟨cause, result⟩
    · rw [result] at returned
      cases returned
      rwa [collect, waiting, List.drop_left] at warning
    · rw [result] at returned
      cases returned
  obtain ⟨texts, rfl, reports⟩ := reports_of_warningOf warned
  exact ⟨texts, waiting, reports⟩

/-- A text on an open connection comes to an outcome, for which the notices are collected, unless it is refused
otherwise than by an error of the database or the connection is lost. -/
theorem sendOn_cases (number : Nat) (label : String) (text : Value) (server : Server) :
    (∃ delay settled, sendOn number label text server =
      (replyOf delay label text settled
          (collect (server.execute number text).2.2 number (server.notices number).length).1,
        (collect (server.execute number text).2.2 number (server.notices number).length).2)) ∨
    ∃ delay fault, sendOn number label text server =
        (⟨delay, .error fault, none⟩, (server.execute number text).2.2) ∧
      (server.Answers number text → (server.execute number text).2.2.isClosed number = true) := by
  unfold sendOn Server.Answers
  rcases server.execute number text with ⟨response, delay, after⟩
  cases response with
  | ok rows => exact .inl ⟨delay, _, rfl⟩
  | error refusal =>
    cases refusal with
    | misuse cause =>
      refine .inr ⟨delay, _, rfl, fun answers => ?_⟩
      obtain ⟨_, _, same, _⟩ := answers _ rfl
      cases same
    | error kind report =>
      cases kind with
      | warning =>
        refine .inr ⟨delay, _, rfl, fun answers => ?_⟩
        obtain ⟨_, _, same, proper⟩ := answers _ rfl
        cases same
        exact absurd rfl proper
      | statement => exact .inl ⟨delay, _, rfl⟩
      | operational | interface =>
        dsimp only
        by_cases lost : after.isClosed number = true
        · rw [lost]
          exact .inr ⟨delay, _, rfl, fun _ => rfl⟩
        · rw [Bool.eq_false_iff.2 lost]
          exact .inl ⟨delay, _, rfl⟩

/-- Over an open connection a text is sent. -/
theorem execute_of_open (connected : session.connection = some number)
    (opened : server.isClosed number = false) (text : Value) :
    session.execute text server = sendOn number session.label text server := by
  rw [execute, connected]
  simp only [opened, Bool.false_eq_true, ↓reduceIte]

/-- Over a closed one nothing happens. -/
theorem execute_of_closed (connected : session.connection = some number)
    (closed : server.isClosed number = true) (text : Value) :
    session.execute text server =
      (⟨.whole 0, .error (.session (.closed session.label)), none⟩, server) := by
  have unusable : session.isClosed server = true := by
    rw [isClosed, connected]
    exact closed
  exact execute_of_isClosed unusable text

/-- An outcome leaves the notices that waited and reports those that were received. -/
theorem execute_returns (connected : session.connection = some number) {text : Value} {outcome : Outcome}
    (returned : (session.execute text server).1.result = .ok outcome) :
    server.isClosed number = false ∧
      (session.execute text server).2.notices number = server.notices number ∧
      ∃ added : List String,
        (server.execute number text).2.2.notices number = server.notices number ++ added.map .text ∧
          Reports outcome.warning added := by
  cases opened : server.isClosed number with
  | true =>
    rw [execute_of_closed connected opened] at returned
    cases returned
  | false =>
    rw [execute_of_open connected opened] at returned ⊢
    rcases sendOn_cases number session.label text server with
      ⟨delay, settled, sent⟩ | ⟨delay, fault, sent, _⟩
    · have received := server.receives_execute number text
      rw [sent] at returned ⊢
      exact ⟨rfl, notices_collect received, collect_returns received returned⟩
    · rw [sent] at returned
      cases returned

/-! ## Courses of texts -/

/-- What a session may go through from a server on: it executes texts, which are answered unless the session is
closed, and meanwhile anything may happen that neither touches the notices of its connection nor opens it
again. -/
inductive Course (session : Session) (number : Nat) (start : Server) : Server → Prop
  /-- Nothing has happened. -/
  | start : Course session number start start
  /-- A text has been executed. -/
  | text {server : Server} (course : Course session number start server) (text : Value)
      (answered : server.isClosed number = false → server.Answers number text) :
      Course session number start (session.execute text server).2
  /-- Something else has happened to the server. -/
  | meanwhile {server after : Server} (course : Course session number start server)
      (untouched : after.notices number = server.notices number)
      (closed : server.isClosed number = true → after.isClosed number = true) :
      Course session number start after

/-- A text that is answered leaves the notices that waited, or it leaves the connection closed. -/
theorem execute_answered (connected : session.connection = some number) {text : Value}
    (answered : server.isClosed number = false → server.Answers number text) :
    (session.execute text server).2.isClosed number = true ∨ (server.isClosed number = false ∧
      (session.execute text server).2.notices number = server.notices number) := by
  cases opened : server.isClosed number with
  | true =>
    rw [execute_of_closed connected opened]
    exact .inl opened
  | false =>
    rw [execute_of_open connected opened]
    rcases sendOn_cases number session.label text server with ⟨delay, settled, sent⟩ | ⟨delay, fault, sent, lost⟩
    · rw [sent]
      exact .inr ⟨rfl, notices_collect (server.receives_execute number text)⟩
    · rw [sent]
      exact .inl (lost (answered opened))

/-- Along a course the notices that waited at first wait until the connection is closed. -/
theorem Course.waiting (connected : session.connection = some number)
    (course : session.Course number start server) :
    server.isClosed number = true ∨ server.notices number = start.notices number := by
  induction course with
  | start => exact .inr rfl
  | text course text answered hypothesis =>
    rcases execute_answered connected answered with closed | ⟨opened, same⟩
    · exact .inl closed
    · rcases hypothesis with closed | waiting
      · rw [closed] at opened
        cases opened
      · exact .inr (same.trans waiting)
  | meanwhile course untouched closed hypothesis =>
    rcases hypothesis with before | waiting
    · exact .inl (closed before)
    · exact .inr (untouched.trans waiting)

/-- Every notice is reported once, by the text that caused it: a text that comes to an outcome, after any course
of texts that were answered by rows or errors, leaves the notices that waited at first. Its warning reports
exactly those that its connection received while it was answered, by rows or by an error. -/
theorem reports_notices_once (connected : session.connection = some number)
    (course : session.Course number start server) {text : Value} {outcome : Outcome}
    (returned : (session.execute text server).1.result = .ok outcome) :
    (session.execute text server).2.notices number = start.notices number ∧
      ∃ added : List String,
        (server.execute number text).2.2.notices number = start.notices number ++ added.map .text ∧
          (outcome.warning = none ↔ added = []) ∧
          (added ≠ [] → outcome.warning = some (Text.trim ("\n".intercalate (added.map Text.trim)))) := by
  obtain ⟨opened, same, added, received, reports⟩ := execute_returns connected returned
  have waiting : server.notices number = start.notices number := by
    rcases course.waiting connected with closed | waiting
    · rw [closed] at opened
      cases opened
    · exact waiting
  rw [waiting] at same received
  exact ⟨same, added, received, reports.none, reports.some⟩

end Session

namespace Sample

/-- A server with one connection, on which a notice waits. It answers one text by no rows and another one by an
error, and sends notices for both. -/
def noticing : Server where
  connections := [{ notices := [.text "NOTICE:  old\n"] }]
  rules := [
    { exact := some (.text "VACUUM"), notices := .array [.text "INFO:  done\n"], answer := .rows (.ok none) },
    { exact := some (.text "COMMIT"), notices := .array [.text "WARNING:  one\n", .text " two "],
      answer := .failure (.ok .statement) "refused\n" false }]

/-- A session over its connection. -/
def noticed : Session := ⟨some 1, "session"⟩

/-- The server after the text that it answers by no rows. -/
def noticingAfter : Server := (noticed.execute (.text "VACUUM") noticing).2

theorem noticed_course : noticed.Course 1 noticing noticingAfter := by
  refine .text .start (.text "VACUUM") fun opened refusal refused => ?_
  have answered : (noticing.execute 1 (.text "VACUUM")).1 = .ok none := by rfl
  rw [answered] at refused
  cases refused

end Sample

open Sample in
/-- The warning of a text that fails after another one consists of its own notices. -/
theorem Session.reports_notices_once_failed :
    ∃ outcome, (noticed.execute (.text "COMMIT") noticingAfter).1.result = .ok outcome ∧
      outcome.error = some "refused" ∧ outcome.warning = some "WARNING:  one\ntwo" ∧
      (noticed.execute (.text "COMMIT") noticingAfter).2.notices 1 = [.text "NOTICE:  old\n"] ∧
      ∃ added : List String,
        (noticingAfter.execute 1 (.text "COMMIT")).2.2.notices 1 =
          .text "NOTICE:  old\n" :: added.map .text ∧
        outcome.warning = some (Text.trim ("\n".intercalate (added.map Text.trim))) := by
  have failed : (noticed.execute (.text "COMMIT") noticingAfter).1.result =
      .ok { error := some "refused", warning := some "WARNING:  one\ntwo" } := by rfl
  obtain ⟨waiting, added, received, silent, reported⟩ :=
    Session.reports_notices_once rfl noticed_course failed
  have some_added : added ≠ [] := fun none => Option.some_ne_none _ (silent.2 none)
  exact ⟨_, failed, rfl, rfl, waiting, added, received, reported some_added⟩

end SerialCheck

import SerialCheck.Proofs.Isolation.Twins

/-!
# Servers with proper rules

A rule is proper if it can be followed whatever text a server is sent: it can tell which texts concern it,
its delay is a number, its notices are texts, and it answers by the engine, by rows or by an error of
the database. A server with proper rules answers every text (`Server.execute_told`). Over an open
connection a session then has an outcome unless the connection is closed afterwards and the answer was
an error of operation or of use (`Session.execute_told`); the connection is closed by no other
answer than an error.
-/
namespace SerialCheck

/-- A rule that can be followed for every text. -/
structure Rule.Proper (rule : Rule) : Prop where
  /-- It can tell which texts concern it. -/
  concerns : ∀ connection text, ∃ answer, rule.concerns connection (.text text) = .ok answer
  /-- It can tell when it is its turn. -/
  due : ∀ seen, ∃ answer, { rule with seen }.isDue = .ok answer
  /-- The delay is a number. -/
  delay : ∃ number, rule.delay.asIncrease = .ok number
  /-- The notices are texts. -/
  notices : ∃ notices : List String, rule.notices.each = .ok (notices.map .text)
  /-- Rows that it answers by can be read. -/
  rows : ∀ rows, rule.answer = .rows rows → ∃ given, rows = .ok given
  /-- An error that it answers by is one of the database, of its operation or of its use. -/
  failure : ∀ kind report disconnects, rule.answer = .failure kind report disconnects →
    ∃ given, kind = .ok given ∧ given ≠ .warning

/-- The rule ends a connection. -/
def Rule.Disconnects (rule : Rule) : Prop := ∃ kind report, rule.answer = .failure kind report true

/-- The rule concerns a text on a connection. -/
def Rule.Meets (rule : Rule) (number : Nat) (text : String) : Prop :=
  rule.concerns number (.text text) = .ok true

namespace Rule

variable {rule other : Rule} {rules : List Rule}

/-- Rules that differ only by what they have seen answer alike. -/
theorem answer_of_fresh (same : rule.fresh = other.fresh) : rule.answer = other.answer := by
  have answers : rule.fresh.answer = other.fresh.answer := by rw [same]
  exact answers

/-- They delay texts alike. -/
theorem delay_of_fresh (same : rule.fresh = other.fresh) : rule.delay = other.delay := by
  have delays : rule.fresh.delay = other.fresh.delay := by rw [same]
  exact delays

/-- A rule that differs only by what it has seen is as proper. -/
theorem Proper.of_fresh (proper : rule.Proper) (same : rule.fresh = other.fresh) : other.Proper where
  concerns := by
    intro connection text
    have equal : other.fresh.concerns connection (.text text) =
      rule.fresh.concerns connection (.text text) := by rw [same]
    obtain ⟨answer, known⟩ := proper.concerns connection text
    exact ⟨answer, equal.trans known⟩
  due := by
    intro seen
    have equal : { other.fresh with seen }.isDue = { rule.fresh with seen }.isDue := by rw [same]
    obtain ⟨answer, known⟩ := proper.due seen
    exact ⟨answer, equal.trans known⟩
  delay := delay_of_fresh same ▸ proper.delay
  notices := (congrArg Rule.notices same) ▸ proper.notices
  rows := answer_of_fresh same ▸ proper.rows
  failure := answer_of_fresh same ▸ proper.failure

/-- A rule that differs only by what it has seen meets the same texts. -/
theorem Meets.of_fresh {number : Nat} {text : String} (meets : rule.Meets number text)
    (same : rule.fresh = other.fresh) : other.Meets number text := by
  have equal : other.fresh.concerns number (.text text) = rule.fresh.concerns number (.text text) := by
    rw [same]
  exact equal.trans meets

/-- Among proper rules one that meets a text is chosen, or none. -/
theorem choose_proper (proper : ∀ rule ∈ rules, rule.Proper) (number : Nat) (text : String) :
    ∃ chosen after, choose number (.text text) rules = (.ok chosen, after) ∧
      after.map fresh = rules.map fresh ∧
        ∀ rule, chosen = some rule → rule.fresh ∈ rules.map fresh ∧ rule.Meets number text := by
  induction rules with
  | nil => exact ⟨none, [], rfl, rfl, by simp⟩
  | cons rule rules hypothesis =>
    obtain ⟨chosen, after, picked, kept, found⟩ :=
      hypothesis fun other member => proper other (List.mem_cons_of_mem _ member)
    have later : ∀ other, chosen = some other →
        other.fresh ∈ (rule :: rules).map fresh ∧ other.Meets number text := fun other same =>
      ⟨List.mem_cons_of_mem _ (found other same).1, (found other same).2⟩
    have first := proper rule List.mem_cons_self
    obtain ⟨concerned, judged⟩ := first.concerns number text
    obtain ⟨due, turn⟩ := first.due rule.noted.seen
    have due' : rule.noted.isDue = .ok due := turn
    rw [choose, judged]
    cases concerned with
    | false => exact ⟨chosen, rule :: after, by simp only [picked], by simp [kept], later⟩
    | true =>
      simp only [due']
      cases due with
      | false =>
        refine ⟨chosen, rule.noted :: after, by simp only [picked], ?_, later⟩
        rw [List.map_cons, List.map_cons, kept]
        rfl
      | true =>
        refine ⟨some rule.noted, rule.noted :: rules, rfl, rfl, ?_⟩
        rintro _ same
        cases same
        exact ⟨List.mem_cons_self, judged⟩

/-- A rule about texts with a given front is proper if it has a number for a delay and answers by
the engine or an error. -/
theorem proper_of_front (front : String) (delay : Int) {answer : RuleAnswer}
    (given : answer = .engine ∨ ∃ kind report disconnects, kind ≠ .warning ∧
      answer = .failure (.ok kind) report disconnects) :
    Proper { start := some (.text front), delay := .integer delay, answer } where
  concerns := fun _ text => ⟨Text.startsWith text front, by
    show ((Except.ok (Text.startsWith text front) : Except Misuse Bool) >>= fun starts =>
      if starts then Except.ok true else pure false) = _
    cases Text.startsWith text front <;> rfl⟩
  due := fun seen => ⟨decide ((0 : Int) < seen), by
    unfold isDue
    show (Value.integer 0).isBelow (.integer seen) >>= _ = _
    rw [Value.isBelow_integer]
    cases decide ((0 : Int) < seen) <;> rfl⟩
  delay := ⟨.whole delay, rfl⟩
  notices := ⟨[], rfl⟩
  rows := by
    rintro rows answered
    rcases given with rfl | ⟨kind, report, disconnects, _, rfl⟩ <;> cases answered
  failure := by
    rintro kind report disconnects answered
    rcases given with rfl | ⟨known, _, _, error, rfl⟩ <;> cases answered
    exact ⟨known, rfl, error⟩

end Rule

namespace Server

/-- All rules of the server are proper. -/
def Proper (server : Server) : Prop := ∀ rule ∈ server.rules, rule.Proper

/-- No rule of the server ends a connection. -/
def Holds (server : Server) : Prop := ∀ rule ∈ server.rules, ¬ rule.Disconnects

variable {server other after : Server} {number : Nat} {connection replaced : Connection}
  {text : String}

/-- A property of rules that does not depend on what they have seen holds of the same rules. -/
theorem forall_rules_of_fresh {holds : Rule → Prop}
    (stable : ∀ one two : Rule, one.fresh = two.fresh → holds one → holds two)
    (all : ∀ rule ∈ server.rules, holds rule)
    (same : other.rules.map Rule.fresh = server.rules.map Rule.fresh) :
    ∀ rule ∈ other.rules, holds rule := by
  intro rule member
  have listed : rule.fresh ∈ server.rules.map Rule.fresh := same ▸ List.mem_map_of_mem member
  obtain ⟨known, inside, alike⟩ := List.mem_map.1 listed
  exact stable known rule alike (all known inside)

/-- Proper rules stay proper. -/
theorem Proper.of_rules (proper : server.Proper)
    (same : other.rules.map Rule.fresh = server.rules.map Rule.fresh) : other.Proper :=
  forall_rules_of_fresh (fun _ _ alike fine => fine.of_fresh alike) proper same

/-- Rules that end no connection go on so. -/
theorem Holds.of_rules (holds : server.Holds)
    (same : other.rules.map Rule.fresh = server.rules.map Rule.fresh) : other.Holds := by
  have stable : ∀ one two : Rule, one.fresh = two.fresh → ¬ one.Disconnects → ¬ two.Disconnects := by
    rintro one two alike keeps ⟨kind, report, ends⟩
    exact keeps ⟨kind, report, (Rule.answer_of_fresh alike).trans ends⟩
  exact forall_rules_of_fresh stable holds same

/-- What a server with proper rules does on being sent a text over a connection. -/
structure Told (server : Server) (number : Nat) (connection : Connection) (text : String)
    (response : Response) (delay : Number) (after : Server) (replaced : Connection) : Prop where
  /-- Rows are those of a rule or of the engine. -/
  rows : ∀ rows, response = .ok rows →
    (∃ rule ∈ server.rules, rule.Meets number text ∧ rule.answer = .rows (.ok rows)) ∨
      (server.engineAfter connection text).1 = .ok rows
  /-- A refusal is an error. -/
  refusal : ∀ refusal, response = .error refusal →
    ∃ kind report, refusal = .error kind report ∧ kind ≠ .warning
  /-- The delay is that of a rule, or there is none. -/
  delay : delay = .whole 0 ∨
    ∃ rule ∈ server.rules, rule.Meets number text ∧ rule.delay.asIncrease = .ok delay
  /-- The connection has received texts as notices. -/
  notices : ∃ notices : List String, replaced.notices = connection.notices ++ notices.map .text
  /-- The engine has acted on the text, or the tables are as they were. -/
  database : after.database = server.database ∨
    after.database = (server.engineAfter connection text).2.database
  /-- Nothing else has changed. -/
  changed : server.Changed after after.database number replaced
  /-- The connection is lost only by an error that a rule answers by. -/
  closed : replaced.closed = true → connection.closed = true ∨
    (∃ rule ∈ server.rules, rule.Disconnects) ∧ ∃ refusal, response = .error refusal

/-- A lost connection is closed, and nothing else changes. -/
theorem changed_lose (present : server.connection? number = some connection) :
    server.Changed (server.lose number) server.database number { connection with closed := true } := by
  unfold lose
  simp only [present]
  exact changed_setConnection present server.database _

/-- The engine's answer to a text on a connection. -/
theorem ask_told (present : server.connection? number = some connection) (text : String) :
    ∃ response after replaced, server.ask number (.text text) = (response, after) ∧
      server.Told number connection text response (.whole 0) after replaced := by
  obtain ⟨after, asked, changed⟩ := ask_changed present text
  have same : after.database = (server.engineAfter connection text).2.database := changed.database
  refine ⟨_, after, { connection with work := (server.engineAfter connection text).2.work }, asked,
    ?_⟩
  exact
    { rows := by
        intro rows answered
        right
        cases given : (server.engineAfter connection text).1 with
        | ok result =>
          rw [given, mapError_ok] at answered
          cases answered
          rfl
        | error report =>
          rw [given] at answered
          cases answered
      refusal := by
        intro refusal answered
        cases given : (server.engineAfter connection text).1 with
        | ok result =>
          rw [given] at answered
          cases answered
        | error report =>
          rw [given] at answered
          cases answered
          exact ⟨.statement, report, rfl, by decide⟩
      delay := .inl rfl
      notices := ⟨[], (List.append_nil _).symm⟩
      database := .inr same
      changed := same ▸ changed
      closed := .inl }

/-- The answer of a proper rule that meets a text. -/
theorem answer_told {rule : Rule} (proper : rule.Proper)
    (present : server.connection? number = some connection) (text : String)
    (listed : rule.fresh ∈ server.rules.map Rule.fresh) (meets : rule.Meets number text) :
    ∃ response after replaced, server.answer number (.text text) rule = (response, after) ∧
      server.Told number connection text response (.whole 0) after replaced := by
  obtain ⟨known, inside, alike⟩ := List.mem_map.1 listed
  have met : known.Meets number text := meets.of_fresh alike.symm
  have answers : known.answer = rule.answer := Rule.answer_of_fresh alike
  unfold answer
  cases given : rule.answer with
  | engine =>
    obtain ⟨response, after, replaced, asked, told⟩ := ask_told present text
    exact ⟨response, after, replaced, asked, told⟩
  | rows rows =>
    obtain ⟨result, rfl⟩ := proper.rows rows given
    refine ⟨.ok result, server, connection, rfl, ?_⟩
    exact
      { rows := by
          intro rows same
          cases same
          exact .inl ⟨known, inside, met, answers.trans given⟩
        refusal := fun _ impossible => by cases impossible
        delay := .inl rfl
        notices := ⟨[], (List.append_nil _).symm⟩
        database := .inl rfl
        changed := changed_self present
        closed := .inl }
  | failure kind report disconnects =>
    obtain ⟨cause, rfl, error⟩ := proper.failure kind report disconnects given
    have refused : ∀ refusal : Refusal, (Except.error (.error cause report) : Response) =
        .error refusal → ∃ kind report, refusal = .error kind report ∧ kind ≠ .warning := by
      intro refusal same
      cases same
      exact ⟨cause, report, rfl, error⟩
    cases disconnects with
    | false =>
      refine ⟨.error (.error cause report), server, connection, rfl, ?_⟩
      exact
        { rows := fun _ impossible => by cases impossible
          refusal := refused
          delay := .inl rfl
          notices := ⟨[], (List.append_nil _).symm⟩
          database := .inl rfl
          changed := changed_self present
          closed := .inl }
    | true =>
      have lost := changed_lose present
      refine ⟨.error (.error cause report), server.lose number, { connection with closed := true },
        rfl, ?_⟩
      exact
        { rows := fun _ impossible => by cases impossible
          refusal := refused
          delay := .inl rfl
          notices := ⟨[], (List.append_nil _).symm⟩
          database := .inl lost.database
          changed := lost.database ▸ lost
          closed := fun _ => .inr ⟨⟨known, inside, _, report, answers.trans given⟩, _, rfl⟩ }

/-- What a server does on being sent a text is what it does once the connection has received notices and
the rules have seen the text. -/
theorem Told.after_notices {between : Server} {response : Response} {delay : Number}
    (notices : List String)
    (begun : server.Changed between server.database number
      { connection with notices := connection.notices ++ notices.map .text })
    (told : between.Told number { connection with notices := connection.notices ++ notices.map .text }
      text response delay after replaced) :
    server.Told number connection text response delay after replaced := by
  have same : between.engineAfter
      { connection with notices := connection.notices ++ notices.map .text } text =
        server.engineAfter connection text := by
    rw [engineAfter, engineAfter, begun.database]
  have known : ∀ rule ∈ between.rules, ∃ other ∈ server.rules, other.fresh = rule.fresh := by
    intro rule member
    have listed : rule.fresh ∈ server.rules.map Rule.fresh :=
      begun.rules ▸ List.mem_map_of_mem member
    exact List.mem_map.1 listed
  exact
    { rows := by
        intro rows answered
        rcases told.rows rows answered with ⟨rule, member, meets, gives⟩ | engine
        · obtain ⟨other, inside, alike⟩ := known rule member
          exact .inl ⟨other, inside, meets.of_fresh alike.symm,
            (Rule.answer_of_fresh alike).trans gives⟩
        · exact .inr (same ▸ engine)
      refusal := told.refusal
      delay := by
        rcases told.delay with none | ⟨rule, member, meets, gives⟩
        · exact .inl none
        · obtain ⟨other, inside, alike⟩ := known rule member
          refine .inr ⟨other, inside, meets.of_fresh alike.symm, ?_⟩
          have delays : other.delay = rule.delay := Rule.delay_of_fresh alike
          rw [delays, gives]
      notices := by
        obtain ⟨further, received⟩ := told.notices
        exact ⟨notices ++ further, by rw [received, List.map_append, List.append_assoc]⟩
      database := by
        rw [← same, ← begun.database]
        exact told.database
      changed := begun.trans told.changed
      closed := by
        intro lost
        rcases told.closed lost with before | ⟨⟨rule, member, kind, report, ends⟩, refused⟩
        · exact .inl before
        · obtain ⟨other, inside, alike⟩ := known rule member
          exact .inr ⟨⟨other, inside, kind, report, (Rule.answer_of_fresh alike).trans ends⟩,
            refused⟩ }

/-- The delay of what a server does may be that of a rule. -/
theorem Told.with_delay {response : Response} {delay other : Number}
    (told : server.Told number connection text response delay after replaced)
    (given : other = .whole 0 ∨
      ∃ rule ∈ server.rules, rule.Meets number text ∧ rule.delay.asIncrease = .ok other) :
    server.Told number connection text response other after replaced :=
  { told with delay := given }

/-- A server with proper rules answers a text on a connection. -/
theorem execute_told (proper : server.Proper) (present : server.connection? number = some connection)
    (text : String) :
    ∃ response delay after replaced, server.execute number (.text text) = (response, delay, after) ∧
      server.Told number connection text response delay after replaced := by
  obtain ⟨chosen, rules, picked, kept, found⟩ := Rule.choose_proper proper number text
  let noted : Server := { server.note number (.sql (.text text)) with rules }
  have chose : Rule.choose number (.text text) (server.note number (.sql (.text text))).rules =
      (.ok chosen, rules) := picked
  have there : noted.connection? number = some connection := present
  have begun : server.Changed noted server.database number
      { connection with notices := connection.notices ++ ([] : List String).map .text } := by
    rw [List.map_nil, List.append_nil]
    exact ⟨rfl, (changed_self present).connection, kept⟩
  rw [execute, chose]
  cases chosen with
  | none =>
    obtain ⟨response, after, replaced, asked, told⟩ := ask_told there text
    have gives : noted.ask number (.text text) = (response, after) := asked
    simp only [noted] at gives
    simp only [gives]
    refine ⟨response, .whole 0, after, replaced, rfl, Told.after_notices [] begun ?_⟩
    rw [List.map_nil, List.append_nil]
    exact told
  | some rule =>
    obtain ⟨listed, meets⟩ := found rule rfl
    obtain ⟨known, inside, alike⟩ := List.mem_map.1 listed
    have fine : rule.Proper := (proper known inside).of_fresh alike
    obtain ⟨delay, increase⟩ := fine.delay
    obtain ⟨notices, received⟩ := fine.notices
    have added := changed_addNotices there (notices.map .text)
    have held := (added.connection number).trans (if_pos rfl)
    have still : rule.fresh ∈ (noted.addNotices number (notices.map .text)).rules.map Rule.fresh := by
      rw [added.rules]
      show rule.fresh ∈ rules.map Rule.fresh
      rw [kept]
      exact listed
    obtain ⟨response, after, replaced, answered, told⟩ := answer_told fine held text still meets
    simp only [noted] at answered
    simp only [follow, increase, received, answered]
    have delays : known.delay.asIncrease = .ok delay := by
      have equal : known.delay = rule.delay := Rule.delay_of_fresh alike
      rw [equal, increase]
    have noticed : server.Changed (noted.addNotices number (notices.map .text)) server.database
        number { connection with notices := connection.notices ++ notices.map .text } :=
      ⟨added.database, (begun.trans added).connection, (begun.trans added).rules⟩
    have followed := Told.after_notices notices noticed told
    exact ⟨response, delay, after, replaced, rfl,
      followed.with_delay (.inr ⟨known, inside, meets.of_fresh alike.symm, delays⟩)⟩

end Server

namespace Session

variable {session : Session} {server : Server} {number : Nat} {connection : Connection}

/-- Texts are trimmed one by one. -/
theorem mapM_trimNotice (notices : List String) :
    (notices.map Value.text).mapM trimNotice = .ok (notices.map Text.trim) := by
  induction notices with
  | nil => rfl
  | cons notice rest hypothesis =>
    rw [List.map_cons, List.mapM_cons, hypothesis]
    rfl

/-- Notices that are texts amount to a warning or none. -/
theorem exists_warningOf (notices : List String) :
    ∃ warning, warningOf (notices.map .text) = .ok warning := by
  cases notices with
  | nil => exact ⟨none, rfl⟩
  | cons notice rest =>
    have shape : warningOf ((notice :: rest).map .text) = (do
        let lines ← ((notice :: rest).map Value.text).mapM trimNotice
        return some (Text.trim (String.join (lines.map (· ++ "\n"))))) := rfl
    rw [shape, mapM_trimNotice]
    exact ⟨_, rfl⟩

/-- An outcome is replied with together with its warning. -/
theorem replyOf_ok (delay : Number) (label text : String) (outcome : Outcome)
    (warning : Option String) :
    ∃ record, replyOf delay label (.text text) outcome (.ok warning) =
      ⟨delay, .ok { outcome with warning }, record⟩ := by
  obtain ⟨rows, error, _⟩ := outcome
  cases error <;> exact ⟨_, rfl⟩

/-- What an answer comes to over a session, with a warning and by whether the connection is closed
afterwards. -/
def settled (session : Session) (warning : Option String) (closed : Bool) :
    Response → Except Fault Outcome
  | .ok rows => .ok { rows, warning }
  | .error (.misuse cause) => .error (.misuse cause)
  | .error (.error .warning report) => .error (.warning report)
  | .error (.error kind report) =>
    if kind != .statement && closed then .error (.session (.lost session.label report))
    else .ok { error := some (Text.trim report), warning }

/-- Over an open connection of a server with proper rules a text is answered, and the answer settled. -/
theorem execute_told (proper : server.Proper) (uses : session.Uses server number connection)
    (text : String) :
    ∃ response delay told replaced warning kept,
      server.execute number (.text text) = (response, delay, told) ∧
        server.Told number connection text response delay told replaced ∧
          (session.execute (.text text) server).1.delay = delay ∧
            (session.execute (.text text) server).1.result =
                session.settled warning replaced.closed response ∧
              server.Changed (session.execute (.text text) server).2 told.database number kept ∧
                kept.closed = replaced.closed := by
  obtain ⟨response, delay, after, replaced, executed, told⟩ :=
    Server.execute_told proper uses.present text
  have noticed : (server.notices number).length = connection.notices.length := by
    rw [Server.notices, uses.present]
    rfl
  have held := (told.changed.connection number).trans (if_pos rfl)
  obtain ⟨notices, received⟩ := told.notices
  obtain ⟨warning, warned⟩ := exists_warningOf notices
  have collected : collect after number connection.notices.length =
      (.ok warning, after.keepNotices number connection.notices.length) := by
    have waiting : after.notices number = connection.notices ++ notices.map .text := by
      rw [Server.notices, held]
      exact received
    rw [collect, waiting, List.drop_left, warned]
  have ended : after.isClosed number = replaced.closed := by
    rw [Server.isClosed, held]
    rfl
  have kept := told.changed.trans (Server.changed_keepNotices held connection.notices.length)
  refine ⟨response, delay, after, replaced, warning, ?_⟩
  rw [execute, uses.named]
  simp only [uses.isClosed_eq_false, Bool.false_eq_true, ↓reduceIte]
  unfold sendOn
  rw [executed, noticed]
  cases response with
  | ok rows =>
    obtain ⟨record, replied⟩ := replyOf_ok delay session.label text { rows } warning
    simp only [collected, replied]
    exact ⟨_, trivial, told, trivial, rfl, kept, rfl⟩
  | error refusal =>
    obtain ⟨kind, report, rfl, error⟩ := told.refusal refusal rfl
    obtain ⟨record, replied⟩ :=
      replyOf_ok delay session.label text { error := some (Text.trim report) } warning
    cases kind with
    | warning => exact absurd rfl error
    | _ =>
      simp only [ended, settled, collected, replied]
      split
      · exact ⟨_, trivial, told, rfl, rfl, told.changed, rfl⟩
      · exact ⟨_, trivial, told, rfl, rfl, kept, rfl⟩

end Session

end SerialCheck

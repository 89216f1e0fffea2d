import SerialCheck.Proofs.Engine.Calm
import SerialCheck.Proofs.Numbered

/-!
# Servers with steady rules

A rule is steady if it does the same to a text whenever that is sent over a connection, and stateless if
the connection does not matter either. What comes of a text on a server with steady rules is determined by
the rules as they were at first and by the engine's answer (`Session.execute_steady`): nothing that was sent
before has a part in it, and neither have the notices that wait on the connection.
-/
namespace SerialCheck

namespace Rule

/-- The rule as it was before it saw a text. -/
def fresh (rule : Rule) : Rule := { rule with seen := 0 }

/-- A rule that does the same to a text whenever it is sent and on every connection, and ends no
connection. -/
structure Stateless (rule : Rule) : Prop where
  /-- It concerns all connections. -/
  connection : rule.connection = none
  /-- It passes no text over at first. -/
  skip : rule.skip = .integer 0
  /-- It goes on for ever. -/
  times : rule.times = .null
  /-- It ends no connection. -/
  keeps : ∀ kind report, rule.answer ≠ .failure kind report true

/-- A rule that does the same to a text whenever it is sent over a connection, and ends no connection. -/
structure Steady (rule : Rule) : Prop where
  /-- It passes no text over at first. -/
  skip : rule.skip = .integer 0
  /-- It goes on for ever. -/
  times : rule.times = .null
  /-- It ends no connection. -/
  keeps : ∀ kind report, rule.answer ≠ .failure kind report true

variable {rule : Rule} {rules others : List Rule}

theorem Stateless.steady (stateless : rule.Stateless) : rule.Steady :=
  ⟨stateless.skip, stateless.times, stateless.keeps⟩

theorem Steady.noted (steady : rule.Steady) : rule.noted.Steady where
  skip := steady.skip
  times := steady.times
  keeps := steady.keeps

/-- A steady rule applies to every text that concerns it. -/
theorem Steady.isDue_noted (steady : rule.Steady) : rule.noted.isDue = .ok true := by
  have skip : rule.noted.skip = .integer 0 := steady.skip
  have times : rule.noted.times = .null := steady.times
  rw [isDue, skip, times]
  show (Value.integer 0).isBelow (.integer (rule.seen + 1)) >>= _ = _
  rw [Value.isBelow_integer, decide_eq_true (by omega)]
  rfl

/-- The first rule that concerns a text on a connection, as it was at first. -/
def first? (number : Nat) (text : Value) : List Rule → Except Misuse (Option Rule)
  | [] => .ok none
  | rule :: rules =>
    match rule.concerns number text with
    | .error cause => .error cause
    | .ok true => .ok (some rule.fresh)
    | .ok false => first? number text rules

/-- What rules have seen does not matter to the choice. -/
theorem first?_fresh (number : Nat) (text : Value) (rules : List Rule) :
    first? number text (rules.map fresh) = first? number text rules := by
  induction rules with
  | nil => rfl
  | cons rule rules hypothesis =>
    have same : rule.fresh.concerns number text = rule.concerns number text := rfl
    rw [List.map_cons, first?, first?, same, hypothesis]
    rfl

theorem first?_congr (same : others.map fresh = rules.map fresh) (number : Nat) (text : Value) :
    first? number text others = first? number text rules := by
  rw [← first?_fresh, same, first?_fresh]

/-- Among steady rules the first one that concerns a text is chosen. -/
theorem choose_steady (steady : ∀ rule ∈ rules, rule.Steady) (number : Nat) (text : Value) :
    ∃ chosen after, choose number text rules = (chosen, after) ∧
      after.map fresh = rules.map fresh ∧
        (first? number text rules =
          match chosen with
          | .error cause => .error cause
          | .ok rule => .ok (rule.map fresh)) ∧
        ∀ rule, chosen = .ok (some rule) → rule.Steady := by
  induction rules with
  | nil => exact ⟨.ok none, [], rfl, rfl, rfl, fun _ none => by cases none⟩
  | cons rule rules hypothesis =>
    obtain ⟨chosen, after, picked, kept, found, good⟩ :=
      hypothesis fun other member => steady other (List.mem_cons_of_mem _ member)
    have first : rule.Steady := steady rule List.mem_cons_self
    rw [choose, first?]
    cases rule.concerns number text with
    | error cause => exact ⟨_, _, rfl, rfl, rfl, fun _ none => by cases none⟩
    | ok concerned =>
      cases concerned with
      | false => exact ⟨chosen, rule :: after, by simp only [picked], by simp [kept], found, good⟩
      | true =>
        simp only [first.isDue_noted]
        refine ⟨_, _, rfl, rfl, rfl, ?_⟩
        rintro other same
        cases same
        exact first.noted

/-- No rule is chosen if none concerns the text. -/
theorem first?_eq_none {number : Nat} {text : Value}
    (none : ∀ rule ∈ rules, rule.concerns number text = .ok false) :
    first? number text rules = .ok .none := by
  induction rules with
  | nil => rfl
  | cons rule rules hypothesis =>
    rw [first?, none rule List.mem_cons_self]
    exact hypothesis fun other member => none other (List.mem_cons_of_mem _ member)

end Rule

/-- What comes of a text: how it is answered and when, with which notices, and whether the engine acts on
it. -/
structure Effect where
  /-- The answer. -/
  response : Response
  /-- How long it takes. -/
  delay : Number
  /-- The notices. -/
  notices : List Value
  /-- The engine acts on the text. -/
  acted : Bool

namespace Effect

/-- The effect of a text that is answered after a delay and with notices. -/
def answered (answer : Answer) (delay : Number) (notices : List Value) : RuleAnswer → Effect
  | .engine => ⟨answer.mapError (.error .statement), delay, notices, true⟩
  | .rows rows => ⟨rows.mapError .misuse, delay, notices, false⟩
  | .failure (.ok kind) report _ => ⟨.error (.error kind report), delay, notices, false⟩
  | .failure (.error cause) _ _ => ⟨.error (.misuse cause), delay, notices, false⟩

/-- The engine afterwards, if acting on the text takes it from one state to another one. -/
def engine (effect : Effect) (before after : Engine) : Engine :=
  match effect.acted with
  | true => after
  | false => before

@[simp] theorem answered_delay (answer : Answer) (delay : Number) (notices : List Value)
    (given : RuleAnswer) : (answered answer delay notices given).delay = delay := by
  unfold answered
  split <;> rfl

@[simp] theorem answered_notices (answer : Answer) (delay : Number) (notices : List Value)
    (given : RuleAnswer) : (answered answer delay notices given).notices = notices := by
  unfold answered
  split <;> rfl

/-- The effect of a text, given the engine's answer and the rule that applies. -/
def of (answer : Answer) : Except Misuse (Option Rule) → Effect
  | .error cause => ⟨.error (.misuse cause), .whole 0, [], false⟩
  | .ok none => answered answer (.whole 0) [] .engine
  | .ok (some rule) =>
    match rule.delay.asIncrease, rule.notices.each with
    | .error cause, _ => ⟨.error (.misuse cause), .whole 0, [], false⟩
    | .ok delay, .error cause => ⟨.error (.misuse cause), delay, [], false⟩
    | .ok delay, .ok notices => answered answer delay notices rule.answer

/-- The reply to a text over a session, if its connection stays open. -/
def reply (effect : Effect) (label : String) (text : Value) : Reply :=
  let settle := fun outcome =>
    Session.replyOf effect.delay label text outcome (Session.warningOf effect.notices)
  match effect.response with
  | .ok rows => settle { rows }
  | .error (.misuse cause) => ⟨effect.delay, .error (.misuse cause), none⟩
  | .error (.error .warning report) => ⟨effect.delay, .error (.warning report), none⟩
  | .error (.error _ report) => settle { error := some (Text.trim report) }

end Effect

namespace Server

/-- All rules of the server are stateless. -/
def Stateless (server : Server) : Prop := ∀ rule ∈ server.rules, rule.Stateless

/-- All rules of the server are steady. -/
def Steady (server : Server) : Prop := ∀ rule ∈ server.rules, rule.Steady

theorem Stateless.steady {server : Server} (stateless : server.Stateless) : server.Steady :=
  fun rule member => (stateless rule member).steady

/-- No rule concerns the text, whichever connection it is sent on. -/
def Leaves (server : Server) (text : String) : Prop :=
  ∀ rule ∈ server.rules, ∀ number, rule.concerns number (.text text) = .ok false

/-- The server has another database and one connection replaced, and otherwise as it was but for its
log and what its rules have seen. -/
structure Changed (server after : Server) (database : Database) (number : Nat)
    (connection : Connection) : Prop where
  /-- The database. -/
  database : after.database = database
  /-- The connections. -/
  connection : ∀ other, after.connection? other =
    if other = number then some connection else server.connection? other
  /-- The rules. -/
  rules : after.rules.map Rule.fresh = server.rules.map Rule.fresh

variable {server between after : Server} {first second : Database} {number : Nat}
  {connection changed : Connection}

theorem Changed.trans (one : server.Changed between first number connection)
    (two : between.Changed after second number changed) :
    server.Changed after second number changed where
  database := two.database
  connection := by
    intro other
    rw [two.connection, one.connection]
    split
    · rfl
    · rfl
  rules := two.rules.trans one.rules

/-- The database and one connection are replaced. -/
theorem changed_setConnection (present : server.connection? number = some connection)
    (database : Database) (replaced : Connection) :
    server.Changed ({ server with database }.setConnection number replaced) database number
      replaced where
  database := rfl
  connection := by
    have there : { server with database }.connection? number = some connection := present
    exact connection?_setConnection there replaced
  rules := rfl

theorem changed_addNotices (present : server.connection? number = some connection)
    (notices : List Value) :
    server.Changed (server.addNotices number notices) server.database number
      { connection with notices := connection.notices ++ notices } := by
  unfold addNotices
  simp only [present]
  exact changed_setConnection present server.database _

theorem changed_keepNotices (present : server.connection? number = some connection) (count : Nat) :
    server.Changed (server.keepNotices number count) server.database number
      { connection with notices := connection.notices.take count } := by
  unfold keepNotices
  simp only [present]
  exact changed_setConnection present server.database _

/-- The engine answers a text on a connection, with the work of that connection. -/
theorem ask_changed (present : server.connection? number = some connection) (text : String) :
    ∃ after, server.ask number (.text text) =
        ((server.engineAfter connection text).1.mapError (.error .statement), after) ∧
      server.Changed after (server.engineAfter connection text).2.database number
        { connection with work := (server.engineAfter connection text).2.work } := by
  have asked : server.ask number (.text text) = server.askEngine number text := rfl
  rw [asked]
  unfold askEngine engineAfter
  simp only [present]
  generalize Engine.execute _ text = answered
  obtain ⟨answer, engine⟩ := answered
  refine ⟨{ server with database := engine.database }.setConnection number
    { connection with work := engine.work }, rfl, ?_⟩
  exact changed_setConnection present engine.database _

/-- The effect of a text on a connection of a steady server, given with its number. -/
def effect (server : Server) (number : Nat) (connection : Connection) (text : String) : Effect :=
  .of (server.engineAfter connection text).1 (Rule.first? number (.text text) server.rules)

/-- The engine after a text on a connection of a steady server. -/
def engineThen (server : Server) (number : Nat) (connection : Connection) (text : String) : Engine :=
  (server.effect number connection text).engine ⟨server.database, connection.work⟩
    (server.engineAfter connection text).2

theorem changed_self (present : server.connection? number = some connection) :
    server.Changed server server.database number connection := by
  refine ⟨rfl, fun other => ?_, rfl⟩
  split
  next same => rw [same, present]
  · rfl

/-- The engine acts on a text if it answers it, and nothing else changes. -/
theorem answer_changed {rule : Rule} (keeps : ∀ kind report, rule.answer ≠ .failure kind report true)
    (present : server.connection? number = some connection) (text : String) (delay : Number)
    (notices : List Value) :
    let effect := Effect.answered (server.engineAfter connection text).1 delay notices rule.answer
    let engine := effect.engine ⟨server.database, connection.work⟩
      (server.engineAfter connection text).2
    ∃ after, server.answer number (.text text) rule = (effect.response, after) ∧
      server.Changed after engine.database number { connection with work := engine.work } := by
  have unchanged := changed_self present
  unfold answer
  cases given : rule.answer with
  | engine =>
    obtain ⟨after, asked, changed⟩ := ask_changed present text
    simp only [Effect.answered, Effect.engine]
    exact ⟨after, asked, changed⟩
  | rows rows => exact ⟨server, rfl, unchanged⟩
  | failure kind report disconnects =>
    cases disconnects with
    | true => exact (keeps kind report given).elim
    | false => cases kind <;> exact ⟨server, rfl, unchanged⟩

/-- A rule that ends no connection has its effect. -/
theorem follow_changed {rule : Rule} (keeps : ∀ kind report, rule.answer ≠ .failure kind report true)
    (present : server.connection? number = some connection) (text : String) :
    let effect := Effect.of (server.engineAfter connection text).1 (.ok (some rule))
    let engine := effect.engine ⟨server.database, connection.work⟩
      (server.engineAfter connection text).2
    ∃ after, server.follow number (.text text) rule = (effect.response, effect.delay, after) ∧
      server.Changed after engine.database number
        { connection with
          notices := connection.notices ++ effect.notices
          work := engine.work } := by
  have unchanged : server.Changed server server.database number
      { connection with notices := connection.notices ++ [] } := by
    rw [List.append_nil]
    exact changed_self present
  simp only [follow, Effect.of]
  cases rule.delay.asIncrease with
  | error cause => exact ⟨server, rfl, unchanged⟩
  | ok delay =>
    cases rule.notices.each with
    | error cause => exact ⟨server, rfl, unchanged⟩
    | ok notices =>
      have added := changed_addNotices present notices
      have held := (added.connection number).trans (if_pos rfl)
      have same : (server.addNotices number notices).engineAfter { connection with
          notices := connection.notices ++ notices } text = server.engineAfter connection text := by
        rw [engineAfter, engineAfter, added.database]
      obtain ⟨after, told, changed⟩ := answer_changed keeps held text delay notices
      rw [same] at told changed
      rw [added.database] at changed
      simp only [told, Effect.answered_delay, Effect.answered_notices]
      exact ⟨after, rfl, added.trans changed⟩

/-- A text on a connection of a steady server has its effect. -/
theorem execute_steady (steady : server.Steady)
    (present : server.connection? number = some connection) (text : String) :
    ∃ after, server.execute number (.text text) =
        ((server.effect number connection text).response, (server.effect number connection text).delay, after) ∧
      server.Changed after (server.engineThen number connection text).database number
        { connection with
          notices := connection.notices ++ (server.effect number connection text).notices
          work := (server.engineThen number connection text).work } := by
  obtain ⟨chosen, rules, picked, kept, found, good⟩ :=
    Rule.choose_steady steady number (.text text)
  let noted : Server := { server.note number (.sql (.text text)) with rules }
  have chose : Rule.choose number (.text text) (server.note number (.sql (.text text))).rules =
      (chosen, rules) := picked
  have there : noted.connection? number = some connection := present
  have begun : server.Changed noted server.database number connection :=
    ⟨rfl, (changed_self present).connection, kept⟩
  have ready : noted.engineAfter connection text = server.engineAfter connection text := rfl
  unfold engineThen effect
  rw [execute, chose, found]
  cases chosen with
  | error cause =>
    simp only [Effect.of, List.append_nil]
    exact ⟨noted, rfl, begun⟩
  | ok chosen =>
    cases chosen with
    | none =>
      obtain ⟨after, asked, changed⟩ := ask_changed there text
      rw [ready] at asked changed
      simp only [noted] at asked
      simp only [asked, Option.map_none, Effect.of, Effect.answered, Effect.engine, List.append_nil]
      exact ⟨after, rfl, begun.trans changed⟩
    | some rule =>
      obtain ⟨after, told, changed⟩ := follow_changed (good rule rfl).keeps there text
      rw [ready] at told changed
      simp only [noted] at told
      simp only [told, Option.map_some]
      exact ⟨after, rfl, begun.trans changed⟩

variable {other : Server}

/-- Only what the rules were at first decides which texts are left to the engine, and how. -/
theorem Steady.of_rules (steady : server.Steady)
    (same : other.rules.map Rule.fresh = server.rules.map Rule.fresh) : other.Steady := by
  intro rule member
  have listed : rule.fresh ∈ server.rules.map Rule.fresh := same ▸ List.mem_map_of_mem member
  obtain ⟨known, inside, alike⟩ := List.mem_map.1 listed
  have first := steady known inside
  exact ⟨(congrArg Rule.skip alike).symm.trans first.skip,
    (congrArg Rule.times alike).symm.trans first.times,
    fun kind report => (congrArg Rule.answer alike) ▸ first.keeps kind report⟩

theorem Leaves.of_rules {text : String} (left : server.Leaves text)
    (same : other.rules.map Rule.fresh = server.rules.map Rule.fresh) : other.Leaves text := by
  intro rule member
  have listed : rule.fresh ∈ server.rules.map Rule.fresh := same ▸ List.mem_map_of_mem member
  obtain ⟨known, inside, alike⟩ := List.mem_map.1 listed
  intro number
  have both : rule.fresh.concerns number (.text text) = known.fresh.concerns number (.text text) := by
    rw [alike]
  exact both.trans (left known inside number)

/-- On servers with the same rules the effects of a text differ by the engine's answers only. -/
theorem effect_congr (same : other.rules.map Rule.fresh = server.rules.map Rule.fresh)
    {text : String} (number : Nat)
    (answers : (other.engineAfter changed text).1 = (server.engineAfter connection text).1) :
    other.effect number changed text = server.effect number connection text := by
  rw [effect, effect, answers, Rule.first?_congr same number]

/-- A text that no rule concerns is answered by the engine. -/
theorem Leaves.effect_eq {text : String} (left : server.Leaves text) (number : Nat)
    (connection : Connection) :
    server.effect number connection text =
      .answered (server.engineAfter connection text).1 (.whole 0) [] .engine := by
  rw [effect, Rule.first?_eq_none fun rule member => left rule member number]
  rfl

theorem Leaves.engineThen_eq {text : String} (left : server.Leaves text) (number : Nat)
    (connection : Connection) :
    server.engineThen number connection text = (server.engineAfter connection text).2 := by
  rw [engineThen, left.effect_eq]
  rfl

end Server

namespace Session

variable {session : Session} {server : Server} {number : Nat} {connection : Connection}

/-- Over an open connection of a steady server the reply to a text is that of its effect. -/
theorem execute_steady (steady : server.Steady)
    (uses : session.Uses server number connection) (text : String) :
    (session.execute (.text text) server).1 =
        (server.effect number connection text).reply session.label (.text text) ∧
      ∃ notices, server.Changed (session.execute (.text text) server).2
        (server.engineThen number connection text).database number
        { connection with notices, work := (server.engineThen number connection text).work } := by
  obtain ⟨after, executed, changed⟩ := Server.execute_steady steady uses.present text
  have noticed : (server.notices number).length = connection.notices.length := by
    rw [Server.notices, uses.present]
    rfl
  have held := (changed.connection number).trans (if_pos rfl)
  have collected : (after.notices number).drop connection.notices.length =
      (server.effect number connection text).notices := by
    rw [Server.notices, held]
    exact List.drop_left
  have opened : after.isClosed number = false := by
    rw [Server.isClosed, held]
    exact uses.alive
  have kept := changed.trans (Server.changed_keepNotices held connection.notices.length)
  rw [changed.database] at kept
  rw [execute, uses.named]
  simp only [uses.isClosed_eq_false, Bool.false_eq_true, ↓reduceIte]
  unfold sendOn Effect.reply
  rw [executed, noticed]
  simp only [collect, collected, opened, Bool.and_false, Bool.false_eq_true, ↓reduceIte]
  generalize (server.effect number connection text).response = response
  cases response with
  | ok rows => exact ⟨rfl, _, kept⟩
  | error refusal =>
    cases refusal with
    | misuse cause => exact ⟨rfl, _, changed⟩
    | error kind report =>
      cases kind with
      | warning => exact ⟨rfl, _, changed⟩
      | operational => exact ⟨rfl, _, kept⟩
      | interface => exact ⟨rfl, _, kept⟩
      | statement => exact ⟨rfl, _, kept⟩

end Session

end SerialCheck

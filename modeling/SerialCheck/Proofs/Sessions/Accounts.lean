import SerialCheck.Proofs.Sessions.Closings
import SerialCheck.Proofs.Sessions.Drafts

/-!
# Accounts of sessions

`Bench.Accounted` says of a stretch of work which sessions it asked for and which of those it still holds:
the others are closed, and no client closed a connection of another session. Stretches that follow each
other have their accounts added up (`Bench.Accounted.trans`), and a session that is closed is struck off
(`Bench.Accounted.close`).
-/
namespace SerialCheck

/-- The sessions that were granted. -/
def Session.Granted (asked : List (Except Fault Session)) (session : Session) : Prop :=
  .ok session ∈ asked

namespace Bench

open SerialCheck.Task

/-- From the first bench to the second one the given sessions were asked for, and those that were granted
are closed, or held, or strayed. -/
structure Accounted (asked : List (Except Fault Session)) (held : List Session) (stray : Prop)
    (bench after : Bench) : Prop where
  /-- Clients closed connections of the granted sessions only. -/
  closes : Closes (Session.Granted asked) bench after
  /-- Every session that was asked for is counted. -/
  counted : after.sessionCount = bench.sessionCount + asked.length
  /-- Each granted session has a connection that was not there before. -/
  fresh : ∀ session : Session, session.Granted asked → ∃ number, session.connection = some number ∧
    bench.server.connections.length < number ∧ number ≤ after.server.connections.length
  /-- The held sessions were granted. -/
  owned : ∀ session ∈ held, session.Granted asked
  /-- A granted session is closed, held or strayed. -/
  settled : ∀ session : Session, session.Granted asked →
    session.isClosed after.server = true ∨ session ∈ held ∨ stray
  /-- The session for setup statements is the one of before or a new one, which is none of the granted. -/
  admin : ∀ admin ∈ after.admin, admin ∈ bench.admin ∨ ∃ number, admin.connection = some number ∧
    bench.server.connections.length < number ∧ number ≤ after.server.connections.length ∧
      ∀ session : Session, session.Granted asked → session.connection ≠ some number

namespace Accounted

variable {asked further : List (Except Fault Session)} {held others : List Session} {stray lost : Prop}
  {bench between after : Bench}

/-- Work that neither asks for sessions nor closes connections. -/
theorem of_silent (onward : bench.server.Onward after.server)
    (silent : after.server.closings = bench.server.closings)
    (counted : after.sessionCount = bench.sessionCount) (admin : after.admin = bench.admin) :
    Accounted [] [] False bench after where
  closes := .of_silent onward silent
  counted := counted
  fresh _ granted := absurd granted List.not_mem_nil
  owned _ member := absurd member List.not_mem_nil
  settled _ granted := absurd granted List.not_mem_nil
  admin _ member := .inl (admin ▸ member)

theorem of_beside (beside : bench.Beside after) : Accounted [] [] False bench after :=
  .of_silent (.of_connections (by rw [beside.server])) (by rw [beside.server]) beside.sessionCount
    beside.admin

theorem mono (accounted : Accounted asked held stray bench after) (wider : stray → lost) :
    Accounted asked held lost bench after where
  closes := accounted.closes
  counted := accounted.counted
  fresh := accounted.fresh
  owned := accounted.owned
  settled session granted := (accounted.settled session granted).imp_right (.imp_right wider)
  admin := accounted.admin

/-- Where sessions stray none has to be held. -/
theorem strayed (accounted : Accounted asked held stray bench after) (strays : lost) :
    Accounted asked [] lost bench after where
  closes := accounted.closes
  counted := accounted.counted
  fresh := accounted.fresh
  owned _ member := absurd member List.not_mem_nil
  settled _ _ := .inr (.inr strays)
  admin := accounted.admin

/-- The accounts of two stretches of work are added up. -/
theorem trans (first : Accounted asked held stray bench between)
    (second : Accounted further others lost between after) :
    Accounted (asked ++ further) (held ++ others) (stray ∨ lost) bench after where
  closes := (first.closes.mono fun _ granted => List.mem_append_left _ granted).trans
    (second.closes.mono fun _ granted => List.mem_append_right _ granted)
  counted := by
    rw [second.counted, first.counted, List.length_append, Nat.add_assoc]
  fresh := by
    intro session granted
    have shorter := first.closes.onward.size
    have longer := second.closes.onward.size
    rcases List.mem_append.1 granted with here | there
    · obtain ⟨number, named, above, below⟩ := first.fresh session here
      exact ⟨number, named, above, by omega⟩
    · obtain ⟨number, named, above, below⟩ := second.fresh session there
      exact ⟨number, named, by omega, below⟩
  owned := by
    intro session member
    rcases List.mem_append.1 member with here | there
    · exact List.mem_append_left _ (first.owned session here)
    · exact List.mem_append_right _ (second.owned session there)
  settled := by
    intro session granted
    rcases List.mem_append.1 granted with here | there
    · obtain ⟨number, named, above, below⟩ := first.fresh session here
      -- what the first stretch has closed stays closed, as its connection was there before the second
      rcases first.settled session here with closed | member | strayed
      · refine .inl (second.closes.onward.isClosed (fun other same => ?_) closed)
        rw [named] at same
        cases same
        exact below
      · exact .inr (.inl (List.mem_append_left _ member))
      · exact .inr (.inr (.inl strayed))
    · rcases second.settled session there with closed | member | strayed
      · exact .inl closed
      · exact .inr (.inl (List.mem_append_right _ member))
      · exact .inr (.inr (.inr strayed))
  admin := by
    intro admin member
    have shorter := first.closes.onward.size
    have longer := second.closes.onward.size
    -- connections of different stretches have different numbers
    rcases second.admin admin member with earlier | ⟨number, named, above, below, other⟩
    · rcases first.admin admin earlier with before | ⟨number, named, above, below, other⟩
      · exact .inl before
      · refine .inr ⟨number, named, above, by omega, fun session granted same => ?_⟩
        rcases List.mem_append.1 granted with here | there
        · exact other session here same
        · obtain ⟨place, placed, beyond, _⟩ := second.fresh session there
          rw [same] at placed
          cases placed
          omega
    · refine .inr ⟨number, named, by omega, below, fun session granted same => ?_⟩
      rcases List.mem_append.1 granted with here | there
      · obtain ⟨place, placed, _, within⟩ := first.fresh session here
        rw [same] at placed
        cases placed
        omega
      · exact other session there same

/-- Work that asks for nothing may go before. -/
theorem after_silent (first : Accounted [] [] False bench between)
    (second : Accounted asked held stray between after) : Accounted asked held stray bench after :=
  (first.trans second).mono (Or.rec False.elim id)

/-- It may also go behind. -/
theorem then_silent (first : Accounted asked held stray bench between)
    (second : Accounted [] [] False between after) : Accounted asked held stray bench after := by
  have both : Accounted (asked ++ []) (held ++ []) stray bench after :=
    (first.trans second).mono (Or.rec id False.elim)
  rwa [List.append_nil, List.append_nil] at both

/-- A session that is closed is struck off. -/
theorem close {session : Session} (accounted : Accounted asked (session :: held) stray bench between) :
    ∃ after, closeSession session between = (.ok (), after) ∧
      Accounted asked held stray bench after := by
  obtain ⟨after, ended, closes, closed, admin, counted⟩ := closeSession_ends session between
  have granted := accounted.owned session List.mem_cons_self
  have onward := closes.onward
  have longer := onward.size
  refine ⟨after, ended, ?_⟩
  constructor
  · exact accounted.closes.trans (closes.mono fun other same => same ▸ granted)
  · rw [counted, accounted.counted]
  · intro other theirs
    obtain ⟨number, named, above, below⟩ := accounted.fresh other theirs
    exact ⟨number, named, above, by omega⟩
  · exact fun other member => accounted.owned other (List.mem_cons_of_mem _ member)
  · intro other theirs
    obtain ⟨number, named, above, below⟩ := accounted.fresh other theirs
    rcases accounted.settled other theirs with already | member | strayed
    · refine .inl (onward.isClosed (fun place same => ?_) already)
      rw [named] at same
      cases same
      exact below
    · rcases List.mem_cons.1 member with rfl | kept
      · exact .inl closed
      · exact .inr (.inl kept)
    · exact .inr (.inr strayed)
  · intro other member
    rw [admin] at member
    rcases accounted.admin other member with before | ⟨number, named, above, below, distinct⟩
    · exact .inl before
    · exact .inr ⟨number, named, above, by omega, distinct⟩

/-- Checking a batch asks for no sessions of transactions and closes none. -/
theorem durable (first : Bench) : Durable (Accounted [] [] False first) where
  beside accounted beside := accounted.then_silent (.of_beside beside)
  sent session text accounted := accounted.then_silent
    (.of_silent (session.onward_execute text _) (session.closings_execute text _) rfl rfl)
  refused {bench address label fault server} accounted failed := by
    obtain ⟨onward, silent⟩ :=
      Session.onward_connect address label bench.settings.lockTimeout bench.server
    rw [failed] at onward silent
    exact accounted.then_silent (.of_silent onward silent rfl rfl)
  administered {bench address label session server} accounted _ granted := by
    obtain ⟨onward, silent⟩ :=
      Session.onward_connect address label bench.settings.lockTimeout bench.server
    rw [granted] at onward silent
    obtain ⟨rfl, longer⟩ := Session.of_connect_ok granted
    have opened : Accounted [] [] False bench
        { bench with server, admin := some ⟨some (bench.server.connections.length + 1), label⟩ } := by
      refine ⟨.of_silent onward silent, rfl, fun session asked => absurd asked List.not_mem_nil,
        fun session held => absurd held List.not_mem_nil,
        fun session asked => absurd asked List.not_mem_nil, fun admin member => .inr ?_⟩
      cases member
      exact ⟨_, rfl, Nat.lt_succ_self _, longer.ge, fun session asked => absurd asked List.not_mem_nil⟩
    exact accounted.then_silent opened

end Accounted

/-- A session of a transaction is counted before it is asked for. -/
theorem openSession_apply (bench : Bench) :
    ∃ label, openSession bench =
      connect label { bench with sessionCount := bench.sessionCount + 1 } := by
  refine ⟨"session-" ++ toString (bench.sessionCount + 1), ?_⟩
  have counted : (modify (fun bench => { bench with sessionCount := bench.sessionCount + 1 }) :
      Task PUnit) bench = (.ok (), { bench with sessionCount := bench.sessionCount + 1 }) := rfl
  unfold openSession
  rw [bind_apply, counted]
  dsimp only
  rw [bind_apply]
  rfl

/-- The settings, the known tables and the synthesizer are left alone. -/
theorem openSession_same (bench : Bench) :
    (openSession bench).2.settings = bench.settings ∧ (openSession bench).2.schema = bench.schema ∧
      (openSession bench).2.synthesizer = bench.synthesizer := by
  obtain ⟨label, asked⟩ := openSession_apply bench
  rw [asked]
  rcases connect_cases label { bench with sessionCount := bench.sessionCount + 1 } with
    ⟨cause, _, ended⟩ | ⟨address, result, server, journal, _, _, ended⟩ <;>
  · rw [ended]
    exact ⟨rfl, rfl, rfl⟩

/-- A session of a transaction is asked for, in vain or not. -/
theorem openSession_accounted (bench : Bench) :
    Accounted [(openSession bench).1] (openSession bench).1.toOption.toList False bench
      (openSession bench).2 := by
  obtain ⟨label, asked⟩ := openSession_apply bench
  have refused (fault : Fault) {after : Bench} (closes : Closes (fun _ => False) bench after)
      (counted : after.sessionCount = bench.sessionCount + 1) (admin : after.admin = bench.admin) :
      Accounted [.error fault] [] False bench after := by
    have none (session : Session) (granted : session.Granted [.error fault]) : False := by
      cases List.mem_singleton.1 granted
    exact ⟨closes.mono fun _ => False.elim, counted, fun session granted => (none session granted).elim,
      fun session held => absurd held List.not_mem_nil,
      fun session granted => (none session granted).elim, fun session member => .inl (admin ▸ member)⟩
  rw [asked]
  rcases connect_cases label { bench with sessionCount := bench.sessionCount + 1 } with
    ⟨cause, _, ended⟩ | ⟨address, result, server, journal, _, granted, ended⟩
  · rw [ended]
    exact refused _ (.of_server rfl) rfl rfl
  · rw [ended]
    obtain ⟨onward, silent⟩ :=
      Session.onward_connect address label bench.settings.lockTimeout bench.server
    have same : Session.connect address label bench.settings.lockTimeout bench.server =
        (result, server) := granted
    rw [same] at onward silent
    cases result with
    | error fault => exact refused fault (.of_silent onward silent) rfl rfl
    | ok session =>
      obtain ⟨named, longer⟩ := Session.of_connect_ok same
      constructor
      · exact .of_silent onward silent
      · rfl
      · intro other theirs
        cases List.mem_singleton.1 theirs
        exact ⟨_, congrArg Session.connection named, Nat.lt_succ_self _, longer.ge⟩
      · intro other theirs
        rw [List.mem_singleton.1 theirs]
        exact List.mem_singleton_self _
      · intro other theirs
        cases List.mem_singleton.1 theirs
        exact .inr (.inl (List.mem_singleton_self _))
      · exact fun other theirs => .inl theirs

end Bench

end SerialCheck

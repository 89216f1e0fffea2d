import SerialCheck.Proofs.Reported
import SerialCheck.Proofs.Sessions.Tended

/-!
# What a campaign leaves open

A connection that a campaign opened is closed when the campaign ends, unless it was granted to a request for
a session that ended in a fault: that happens when the lock timeout cannot be set, and it happens without a
trace in verdicts and exit codes (`Campaign.left_open`). A campaign that ends by the misuse of a value may
also leave the session open whose transaction was being drafted.
-/
namespace SerialCheck

open SerialCheck.Task SerialCheck.Bench

/-! ## Preparing the database -/

namespace Bench.Durable

variable {holds : Bench → Prop} (durable : Durable holds)
  (logged : ∀ {bench : Bench} (setupLog), holds bench → holds { bench with setupLog })

include durable

theorem attempt {α : Type} (choice : Attempt α) : Upholds holds (Task.attempt choice) := by
  refine (durable.draw choice.run).bind fun outcome => ?_
  split
  · exact upholds_pure _
  · exact upholds_throw _

include logged

/-- A setup statement may succeed and join the log, or fail. -/
theorem runSetup (query : Query) : Upholds holds (Bench.runSetup query) := by
  refine durable.setup _ fun outcome => ?_
  split
  · refine (upholds_modify fun _ held => logged _ held).bind fun _ => ?_
    split
    · exact durable.updateSchema.bind fun _ => upholds_pure _
    · exact upholds_pure _
  · split
    · exact (durable.log _ _).bind fun _ => upholds_pure _
    · exact upholds_throw _

omit durable logged in
theorem tableCount : Upholds holds Bench.tableCount := upholds_get_bind fun _ _ => upholds_pure _

theorem createTables (wanted : Value) (attempts : Nat) :
    Upholds holds (Bench.createTables wanted attempts) := by
  induction attempts with
  | zero =>
    refine tableCount.bind fun count => (upholds_use _).bind fun below => ?_
    exact upholds_ite (upholds_throw _) (upholds_pure _)
  | succ attempts hypothesis =>
    refine tableCount.bind fun count => (upholds_use _).bind fun below => ?_
    have drawn : Upholds holds drawTable :=
      upholds_get_bind fun _ _ => (durable.attempt _).bind fun _ => upholds_pure _
    refine upholds_ite ?_ (upholds_pure _)
    exact drawn.bind fun query => (durable.runSetup logged query).discard.bind fun _ => hypothesis

theorem fillTables (wanted : Value) (tables : List Table) :
    Upholds holds (Bench.fillTables wanted tables) := by
  have filled (table : Table) (count : Nat) : Upholds holds (fillTable table count) := by
    induction count with
    | zero => exact upholds_pure _
    | succ count hypothesis =>
      refine (durable.attempt _).bind fun statement => ?_
      exact (durable.runSetup logged _).discard.bind fun _ => hypothesis
  induction tables with
  | nil => exact upholds_pure _
  | cons table tables hypothesis =>
    exact (upholds_use _).bind fun count => (filled table _).bind fun _ => hypothesis

/-- Making a random database upholds a durable condition. -/
theorem generateDatabase : Upholds holds Bench.generateDatabase := by
  have created (wanted : Value) : Upholds holds (createAll wanted) := by
    refine tableCount.bind fun count => (upholds_use _).bind fun below => ?_
    exact upholds_ite ((upholds_use _).bind fun _ => durable.createTables logged _ _) (upholds_pure _)
  have cleared : Upholds holds clearSetupLog := upholds_modify fun _ held => logged _ held
  refine durable.dropTables.bind fun _ => cleared.bind fun _ => upholds_get_bind fun bench _ => ?_
  refine (created _).bind fun _ => upholds_get_bind fun filled _ => ?_
  refine (durable.fillTables logged _ _).bind fun _ => upholds_get_bind fun done _ => ?_
  exact durable.log _ _

/-- So does running a script on an empty one. -/
theorem loadScript (path : String) : Upholds holds (Bench.loadScript path) := by
  have read : Upholds holds (readFile path) := by
    refine upholds_get_bind fun bench _ => ?_
    split
    · exact upholds_pure _
    · exact upholds_throw _
  have ran (texts : List String) : Upholds holds (runScript texts) := by
    induction texts with
    | nil => exact upholds_pure _
    | cons text texts hypothesis => exact (durable.runSetup logged _).discard.bind fun _ => hypothesis
  have cleared : Upholds holds clearSetupLog := upholds_modify fun _ held => logged _ held
  refine read.bind fun script => durable.dropTables.bind fun _ => cleared.bind fun _ => ?_
  exact (ran _).bind fun _ => durable.updateSchema

/-- Preparing the database upholds a durable condition that does not depend on the setup log. -/
theorem prepare : Upholds holds Campaign.prepare :=
  upholds_get_bind fun _ _ => upholds_ite (durable.loadScript logged _) (durable.generateDatabase logged)

end Bench.Durable

/-! ## From the setup to the end -/

variable {α β : Type} {timeout : Value} {start : Server} {held : List Session} {bench : Bench}

/-- Begun with no session held, the task ends with none held, unless one went astray. -/
def Task.Settling (timeout : Value) (start : Server) (task : Task α) : Prop :=
  ∀ bench, Tended timeout start [] bench → Settles timeout start [] (task bench).1 (task bench).2

namespace Task

theorem Upholds.settling {task : Task α} (upholds : Upholds (Tended timeout start []) task) :
    Settling timeout start task := fun bench tended => (upholds bench tended).settles _

/-- A sequence is settling if its parts are. -/
theorem Settling.bind {task : Task α} {next : α → Task β} (first : Settling timeout start task)
    (second : ∀ value, Settling timeout start (next value)) : Settling timeout start (task >>= next) := by
  intro bench tended
  have left := first bench tended
  rw [bind_apply]
  generalize task bench = outcome at left
  obtain ⟨outcome, between⟩ := outcome
  cases outcome with
  | error fault => exact left.imp (fun ⟨cause, same⟩ => ⟨cause, by cases same; rfl⟩) fun _ => id
  | ok value =>
    obtain ⟨stray, astray, kept⟩ := left
    cases stray with
    | some session => obtain ⟨cause, same⟩ := astray rfl; cases same
    | none => exact second value between kept

theorem settling_get_bind {next : Bench → Task α} (second : ∀ bench, Settling timeout start (next bench)) :
    Settling timeout start (get >>= next) := fun bench tended => second bench bench tended

end Task

namespace Campaign

/-- The console and the files do not matter. -/
theorem tended_aside {bench : Bench} (console : History String) (disk : Disk)
    (tended : Tended timeout start held bench) : Tended timeout start held { bench with console, disk } :=
  tended.of_same rfl rfl rfl

theorem tended_print (text : String) : Upholds (Tended timeout start held) (Task.print text) :=
  Display.upholds_print (fun {bench} console tended => tended_aside console bench.disk tended) text

/-- Sessions are tended from one iteration to the next, if they are in each check. -/
theorem iterations_settling {evaluate : Nat → Task Verdict}
    (checked : ∀ iteration, Settling timeout start (evaluate iteration)) (output count : Value)
    (further iteration abandoned : Nat) :
    Settling timeout start (iterations evaluate output count further iteration abandoned) := by
  induction further generalizing iteration abandoned with
  | zero =>
    have shown : Upholds (Tended timeout start [])
        (iterations evaluate output count 0 iteration abandoned) :=
      upholds_get_bind fun _ _ => (tended_print _).bind fun _ => upholds_pure _
    exact shown.settling
  | succ further hypothesis =>
    have iterated : Settling timeout start (iterate evaluate iteration count) := by
      intro bench tended
      have left := checked iteration (bench.showing (startText count iteration))
        (tended_aside _ bench.disk tended)
      rw [iterate_apply, round]
      generalize evaluate iteration (bench.showing (startText count iteration)) = ended at left
      refine left.imp ?_ fun _ kept => tended_aside _ ended.2.disk kept
      rintro ⟨cause, same⟩
      dsimp only
      rw [same]
      exact ⟨cause, rfl⟩
    refine iterated.bind fun outcome => ?_
    split
    · exact ((durable_tended _ _ _).log _ _).settling.bind fun _ => hypothesis _ _
    · exact hypothesis _ _
    · exact ((upholds_conclude tended_aside output _).bind fun _ => upholds_pure _).settling

/-- So they are in the whole work of a campaign. -/
theorem work_settling (output : Value) : Settling timeout start (work output) := by
  have durable := durable_tended timeout start []
  have prepared : Upholds (Tended timeout start []) prepare :=
    durable.prepare fun _ tended => tended.of_same rfl rfl rfl
  refine prepared.settling.bind fun _ => settling_get_bind fun bench => ?_
  refine (upholds_use _).settling.bind fun names => (tended_print _).settling.bind fun _ => ?_
  refine settling_get_bind fun ready => (upholds_use _).settling.bind fun beyond => ?_
  exact iterations_settling (fun _ _ tended => Check.evaluate_settles tended) _ _ _ _ _

/-- A session fault ends the work with an exit code, and other faults pass. -/
theorem guarded_settling {task : Task Int} (left : Settling timeout start task) :
    Settling timeout start (guarded task) := by
  intro bench tended
  have ended := left bench tended
  rw [guarded, bind_apply, caught_apply]
  dsimp only
  generalize task bench = outcome at ended
  obtain ⟨outcome, after⟩ := outcome
  cases outcome with
  | ok code => exact ended
  | error fault =>
    cases fault with
    | session cause =>
      have reported (held : List Session) : Upholds (Tended timeout start held) (do
          Task.log .error ("Session fault: " ++ cause.message)
          Display.error ("Session fault: " ++ cause.message)
          return 2 : Task Int) :=
        ((durable_tended timeout start held).log _ _).bind fun _ =>
          (tended_print _).bind fun _ => upholds_pure _
      exact ended.imp (fun ⟨_, same⟩ => (by cases same)) fun stray kept => reported _ after kept
    | _ => exact ended

/-- The session for setup statements is closed and given up. -/
theorem close_ends (bench : Bench) : ∃ after, Bench.close bench = (.ok (), after) ∧ after.admin = none ∧
    ∀ {timeout start held}, Tended timeout start held bench → Tended timeout start held after := by
  have read : (get : Task Bench) bench = (.ok bench, bench) := rfl
  unfold Bench.close
  rw [bind_apply, read]
  dsimp only
  cases known : bench.admin with
  | none => exact ⟨bench, rfl, known, id⟩
  | some session =>
    obtain ⟨journal, closed⟩ := closeSession_apply session bench
    dsimp only
    rw [bind_apply, closed]
    refine ⟨_, rfl, rfl, fun {timeout start held} tended => ?_⟩
    -- it is held like the session of a transaction, and closed like one
    have moved : Tended timeout start (session :: held) { bench with admin := none } := by
      refine ⟨tended.timed, tended.later, fun number beyond alive => ?_⟩
      refine (tended.kept number beyond alive).imp_left ?_
      rintro ⟨other, held | admin, named⟩
      · exact ⟨other, .inl (List.mem_cons_of_mem _ held), named⟩
      · rw [known] at admin
        cases admin
        exact ⟨session, .inl List.mem_cons_self, named⟩
    obtain ⟨_, again⟩ := closeSession_apply session { bench with admin := none }
    have left := moved.close
    rw [again] at left
    exact left.of_same rfl rfl rfl

/-- After a campaign no session is held, unless one went astray, and there is none for setup statements. -/
theorem campaign_settles (output : Value) (tended : Tended timeout start [] bench) :
    Settles timeout start [] (campaign output bench).1 (campaign output bench).2 ∧
      (campaign output bench).2.admin = none := by
  obtain ⟨console, headed⟩ : ∃ console, campaign output bench =
      withCleanup (guarded (work output)) Bench.close { bench with console } := ⟨_, rfl⟩
  have left := guarded_settling (work_settling output) _ (tended_aside console bench.disk tended)
  rw [headed, withCleanup, bind_apply, caught_apply]
  dsimp only
  generalize guarded (work output) { bench with console } = ended at left
  obtain ⟨outcome, after⟩ := ended
  obtain ⟨last, closed, alone, settled⟩ := close_ends after
  rw [bind_apply, closed]
  cases outcome <;> exact ⟨left.imp id fun stray => settled, alone⟩

/-- Where no session is held any more, only connections that were given up are open, and the one that went
astray. -/
theorem left_of_settles {outcome : Except Fault α} (settles : Settles timeout start [] outcome bench)
    (alone : bench.admin = none) :
    ∃ stray : Option Nat, (stray.isSome = true → Misuses outcome) ∧
      ∀ number, start.connections.length < number → bench.server.isClosed number = false →
        stray = some number ∨ Server.GivenUp bench.settings.lockTimeout start bench.server number := by
  obtain ⟨stray, astray, tended⟩ := settles
  refine ⟨stray.bind (·.connection), fun there => astray ?_, fun number beyond opened => ?_⟩
  · cases stray with
    | none => cases there
    | some session => rfl
  · rw [tended.timed]
    refine (tended.kept number beyond opened).imp_left ?_
    rintro ⟨session, held | admin, named⟩
    · rw [List.append_nil, Option.mem_toList] at held
      cases held
      exact named
    · rw [alone] at admin
      cases admin

/-- Opening a session is not all or nothing: it is exactly if the lock timeout of a connection that is granted
can be set, or the error that this comes to ends the connection. So the connections that are open after a
whole campaign, and were not there before, are those that were granted to requests for a session that ended in
a fault; if the campaign ends by the misuse of a value, there may be one besides. -/
theorem left_open (server : Server) (address label : String) (timeout : Value) (arguments : List String)
    (environment : List (String × String)) (disk : Disk) (seed : Int) :
    (Session.AllOrNothing address label timeout server ↔
      ∀ number opened, server.connect address = (.ok number, opened) → timeout.isFilled = true →
        Session.SetsOrEnds timeout number opened) ∧
      let ending := launch arguments environment server disk seed
      ∃ stray : Option Nat, (stray.isSome = true → ∃ cause, ending.code = .error (.misuse cause)) ∧
        ∀ number, server.connections.length < number → ending.bench.server.isClosed number = false →
          stray = some number ∨
            Server.GivenUp ending.bench.settings.lockTimeout server ending.bench.server number := by
  refine ⟨Session.allOrNothing_iff, ?_⟩
  -- where no campaign is begun the bench stays as it is but for a complaint on the console
  have idle (console : History String) : Tended ({} : Settings).lockTimeout server []
      { benchOf {} server disk (.ofSeed seed []) with console } :=
    tended_begun { benchOf {} server disk (.ofSeed seed []) with console }
  dsimp only
  unfold launch
  dsimp only
  split
  · exact left_of_settles ((idle _).settles _) rfl
  · split
    · exact left_of_settles ((idle _).settles _) rfl
    · exact left_of_settles ((idle _).settles _) rfl
    · split
      · exact left_of_settles ((idle _).settles _) rfl
      next settings _ _ randomness _ =>
        obtain ⟨settled, alone⟩ := campaign_settles _ (tended_begun (benchOf settings server disk randomness))
        exact left_of_settles settled alone

end Campaign

namespace Sample

/-- A server on which nobody may set anything. -/
def permitless : Server where
  rules := [{ start := some (.text "SET"), answer := .failure (.ok .statement) "permission denied" false }]

/-- A request for a session fails there after its connection was granted, which is left open. So is the
connection of a whole campaign with a lock timeout, and its exit code tells of the failed request only. -/
theorem permitless_left_open :
    ¬Session.AllOrNothing "db" "session-1" (.integer 100) permitless ∧
      (Campaign.launch [] [("TXORACLE_LOCK_TIMEOUT_MS", "100")] permitless [] 0).code.toOption = some 2 ∧
        (Campaign.launch [] [("TXORACLE_LOCK_TIMEOUT_MS", "100")] permitless [] 0).bench.server.isClosed 1 =
          false := by
  refine ⟨@Session.not_allOrNothing _ _ _ _ 1 ?_ Nat.one_pos ?_, ?_⟩ <;> decide +kernel

end Sample

end SerialCheck

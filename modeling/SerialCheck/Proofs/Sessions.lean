import SerialCheck.Proofs.Generated.Batches
import SerialCheck.Proofs.Sessions.Accounts

/-!
# No session is left open

However a check of a batch ends, the sessions that were opened for its transactions are closed afterwards,
also that of a transaction whose generation was given up (`Check.evaluate_closes`). Their connections are
the only ones that are closed on behalf of the check; that of the session for setup statements is not.
-/
namespace SerialCheck

open SerialCheck.Task

namespace Generation

/-- What came of the session that a transaction asks for, if its generation gets that far. -/
def asked (bench : Bench) : List (Except Fault Session) :=
  match drawSize bench with
  | (.ok _, first) =>
    [(Bench.openSession { first with nextTransaction := first.nextTransaction + 1 }).1]
  | (.error _, _) => []

/-- The sessions that are held after a transaction was generated or not. -/
def held (outcome : Except Fault OpenTransaction) : List Session :=
  outcome.toOption.toList.map (·.session)

/-- What is not made for drafting made a generation end in a fault after which its session is not closed. -/
def Strays {α : Type} (bench : Bench) (outcome : Except Fault α) : Prop :=
  ∃ fault, outcome = .error fault ∧ closesSession fault = false ∧ ¬bench.CanDraft

/-- A fault that is met in a generation is reported as one of the same nature. -/
theorem closesSession_faultOf (id : Int) (fault : Fault) :
    closesSession (faultOf id fault) = closesSession fault := by
  cases fault <;> rfl

/-- A granted session gets the statements of its transaction, or is closed if they are given up. -/
def occupy (session : Session) (id : Int) (size : Value) : Task OpenTransaction := do
  match ← Task.caught (statements id size) with
  | .error fault =>
    if closesSession fault then Bench.closeSession session
    throw (faultOf id fault)
  | .ok transaction =>
    Task.log .debug s!"Generated transaction {id} with {size.plain} data statements"
    return { transaction with session }

/-- A transaction is generated by asking for its session and occupying it. -/
theorem transaction_eq : transaction = (do
    let size ← drawSize
    let id ← nextId
    match ← Task.caught Bench.openSession with
    | .error fault => throw (faultOf id fault)
    | .ok session => occupy session id size) := rfl

/-- The session that is occupied is held with its transaction, or closed if the statements are given up. -/
theorem occupy_accounted {asked : List (Except Fault Session)} {session : Session} {bench between : Bench}
    {size : Value} (id : Int) (opened : Bench.Accounted asked [session] False bench between)
    (fit : bench.CanDraft → between.CanDraft ∧ size.IsWhole) :
    Bench.Accounted asked (held (occupy session id size between).1)
        (Strays bench (occupy session id size between).1) bench (occupy session id size between).2 ∧
      (bench.CanDraft → ∀ made, (occupy session id size between).1 = .ok made →
        (occupy session id size between).2.CanDraft) := by
  have drafted : between.Beside (statements id size between).2 :=
    (Bench.Beside.drafting between).statements _ _ between (.refl between)
  have ended (can : bench.CanDraft) := drafts_statements id (fit can).2 between (fit can).1
  unfold occupy
  rw [bind_apply, caught_apply]
  dsimp only
  generalize statements id size between = made at drafted ended
  obtain ⟨outcome, after⟩ := made
  have reached := opened.then_silent (.of_beside drafted)
  cases outcome with
  | ok transaction =>
    have written (text : String) : Bench.Accounted asked [session] False bench
        { after with journal := after.journal.push (.debug, text) } :=
      reached.then_silent (.of_beside ⟨rfl, rfl, rfl, rfl, rfl⟩)
    dsimp only
    rw [bind_apply]
    exact ⟨(written _).mono False.elim, fun can _ _ =>
      (ended can).still.of_same rfl rfl (ended can).still.counts⟩
  | error fault =>
    dsimp only
    cases closes : closesSession fault with
    | true =>
      obtain ⟨last, closed, settled⟩ := reached.close
      rw [if_pos rfl, bind_apply, closed]
      exact ⟨settled.mono False.elim, fun _ made same => (by cases same)⟩
    | false =>
      -- drafting that the bench is fit for only ends in faults that close the session
      have strayed : Strays bench (.error (faultOf id fault) : Except Fault OpenTransaction) := by
        refine ⟨_, rfl, (closesSession_faultOf _ _).trans closes, fun can => ?_⟩
        have given_up := (ended can).fault fault rfl
        rw [closes] at given_up
        cases given_up
      rw [if_neg Bool.false_ne_true]
      exact ⟨reached.strayed strayed, fun _ made same => (by cases same)⟩

/-- The session of a transaction is held with it, or closed if its statements are given up. -/
theorem transaction_accounted (bench : Bench) :
    Bench.Accounted (asked bench) (held (transaction bench).1) (Strays bench (transaction bench).1) bench
        (transaction bench).2 ∧
      (bench.CanDraft → ∀ made, (transaction bench).1 = .ok made → (transaction bench).2.CanDraft) := by
  have sized : bench.Beside (drawSize bench).2 := (Bench.Beside.drafting bench).drawSize bench (.refl bench)
  have still (can : bench.CanDraft) := drawSize_ends can
  rw [transaction_eq, asked, bind_apply]
  generalize drawSize bench = drawn at sized still
  obtain ⟨outcome, first⟩ := drawn
  cases outcome with
  | error fault =>
    exact ⟨(Bench.Accounted.of_beside sized).mono False.elim, fun _ made same => (by cases same)⟩
  | ok size =>
    have numbered : nextId first = (.ok (first.nextTransaction : Int),
        { first with nextTransaction := first.nextTransaction + 1 }) := rfl
    have begun : Bench.Accounted [] [] False bench
        { first with nextTransaction := first.nextTransaction + 1 } :=
      (Bench.Accounted.of_beside sized).then_silent (.of_silent (.refl _) rfl rfl rfl)
    have opened := Bench.openSession_accounted
      { first with nextTransaction := first.nextTransaction + 1 }
    have same := Bench.openSession_same
      { first with nextTransaction := first.nextTransaction + 1 }
    dsimp only
    rw [bind_apply, numbered]
    dsimp only
    rw [bind_apply, caught_apply]
    dsimp only
    generalize Bench.openSession { first with nextTransaction := first.nextTransaction + 1 } = granted
      at opened same
    obtain ⟨outcome, third⟩ := granted
    have accounted := begun.after_silent opened
    cases outcome with
    | error fault =>
      exact ⟨accounted.mono False.elim, fun _ made same => (by cases same)⟩
    | ok session =>
      refine occupy_accounted _ accounted fun can => ?_
      obtain ⟨draft, whole⟩ := still can
      exact ⟨draft.of_same same.1 same.2.1 (same.2.2 ▸ draft.counts), whole size rfl⟩

end Generation

namespace Check

/-- What came of the sessions that are asked for while so many transactions are generated, in order. -/
def askedEach : Nat → Bench → List (Except Fault Session)
  | 0, _ => []
  | count + 1, bench =>
    Generation.asked bench ++
      match Generation.transaction bench with
      | (.ok _, after) => askedEach count after
      | (.error _, _) => []

/-- What came of the sessions of transactions that are asked for while a batch is generated and checked. -/
def asked (bench : Bench) : List (Except Fault Session) :=
  match bench.settings.batchSize.count with
  | .ok count => askedEach count.toNat bench
  | .error _ => []

/-- The sessions of a batch. -/
def sessionsOf (batch : Batch) : List Session := batch.map (·.session)

/-- The sessions of the generated transactions are held with them, also if a further one is given up. -/
theorem generateEach_accounted (count : Nat) (given : Batch) (bench : Bench) :
    ∃ generated made after, generateEach count given bench = (.ok (generated, given ++ made), after) ∧
      Bench.Accounted (askedEach count bench) (sessionsOf made) (Generation.Strays bench generated) bench
        after := by
  induction count generalizing given bench with
  | zero =>
    refine ⟨.ok given, [], bench, ?_, (Bench.Accounted.of_beside (.refl bench)).mono False.elim⟩
    rw [List.append_nil]
    rfl
  | succ count hypothesis =>
    obtain ⟨accounted, still⟩ := Generation.transaction_accounted bench
    unfold askedEach generateEach
    rw [bind_apply, caught_apply]
    dsimp only
    generalize Generation.transaction bench = ended at accounted still
    obtain ⟨outcome, between⟩ := ended
    cases outcome with
    | error fault =>
      refine ⟨.error fault, [], between, by rw [List.append_nil]; rfl, ?_⟩
      dsimp only
      rw [List.append_nil]
      refine accounted.mono ?_
      rintro ⟨cause, same, stays, unfit⟩
      cases same
      exact ⟨_, rfl, stays, unfit⟩
    | ok transaction =>
      obtain ⟨generated, made, after, ended, further⟩ := hypothesis (given ++ [transaction]) between
      refine ⟨generated, transaction :: made, after, ?_, (accounted.trans further).mono ?_⟩
      · rw [List.append_cons]
        exact ended
      · rintro (⟨cause, same, _⟩ | ⟨cause, same, stays, unfit⟩)
        · cases same
        · exact ⟨cause, same, stays, fun can => unfit (still can transaction rfl)⟩

/-- The sessions of a batch are closed one after the other. -/
theorem closeEach_accounted {asked : List (Except Fault Session)} {stray : Prop} {batch : Batch}
    {bench between : Bench} (accounted : Bench.Accounted asked (sessionsOf batch) stray bench between) :
    ∃ after, closeEach batch between = (.ok (), after) ∧ Bench.Accounted asked [] stray bench after := by
  induction batch generalizing between with
  | nil => exact ⟨between, rfl, accounted⟩
  | cons transaction rest hypothesis =>
    obtain ⟨later, closed, left⟩ := accounted.close
    obtain ⟨after, ended, settled⟩ := hypothesis left
    refine ⟨after, ?_, settled⟩
    rw [closeEach, bind_apply, closed]
    exact ended

/-- The generation of the batch ends in a fault after which the session of the transaction is not closed,
which is none by which a generation is given up. -/
def Misgenerates (bench : Bench) : Prop :=
  ∃ count fault rest after, bench.settings.batchSize.count = .ok count ∧
    generateEach count.toNat [] bench = (.ok (.error fault, rest), after) ∧
      Generation.closesSession fault = false

/-- Whichever way a check ends, the accounts of its sessions are settled. -/
theorem evaluate_accounted (bench : Bench) :
    Bench.Accounted (asked bench) [] (¬bench.CanDraft ∧ Misgenerates bench) bench
      (evaluate bench).2 := by
  have read : (get : Task Bench) bench = (.ok bench, bench) := rfl
  unfold asked evaluate
  rw [bind_apply, read]
  dsimp only
  rw [bind_apply]
  cases sized : bench.settings.batchSize.count with
  | error cause => exact (Bench.Accounted.of_beside (.refl bench)).mono False.elim
  | ok count =>
    have counted : use (Except.ok count : Except Misuse Int) bench = (.ok count, bench) := rfl
    obtain ⟨generated, made, first, ended, opened⟩ := generateEach_accounted count.toNat [] bench
    have held : Bench.Accounted (askedEach count.toNat bench) (sessionsOf made)
        (¬bench.CanDraft ∧ Misgenerates bench) bench first := by
      refine opened.mono ?_
      rintro ⟨fault, rfl, stays, unfit⟩
      exact ⟨unfit, count, fault, _, first, sized, ended, stays⟩
    rw [List.nil_append] at ended
    rw [counted]
    dsimp only
    rw [bind_apply, ended]
    dsimp only
    rw [bind_apply, withCleanup, bind_apply, caught_apply]
    dsimp only
    have durable := Bench.Accounted.durable first
    have noted {bench : Bench} (lastBatch : List Transaction)
        (accounted : Bench.Accounted [] [] False first bench) :
        Bench.Accounted [] [] False first { bench with lastBatch } :=
      accounted.then_silent (.of_silent (.refl _) rfl rfl rfl)
    have checked : Bench.Accounted [] [] False first
        ((release generated >>= fun batch => checkBatch batch) first).2 :=
      (upholds_release generated).bind (fun batch => durable.checkBatch noted batch) first
        (.of_beside (.refl first))
    generalize (release generated >>= fun batch => checkBatch batch) first = verdict at checked
    obtain ⟨verdict, second⟩ := verdict
    obtain ⟨third, closed, settled⟩ := closeEach_accounted (held.then_silent checked)
    rw [bind_apply, closed]
    dsimp only
    rw [← bind_apply]
    have durable := Bench.Accounted.durable third
    have recorded : Upholds (Bench.Accounted [] [] False third)
        (release verdict >>= fun verdict => do
          recordVerdict made verdict
          return verdict) :=
      (upholds_release verdict).bind fun verdict =>
        (durable.recordVerdict made verdict).bind fun _ => upholds_pure _
    exact settled.then_silent (recorded third (.of_beside (.refl third)))

/-- No session of a transaction is left open. Whichever way a check ends, every session that was granted
while its batch was generated is closed afterwards, no other session of a transaction was asked for, and
only connections of those sessions were closed by a client; that of the session for setup statements is
none of them. The settings, the known tables and the synthesizer are of the kinds that drafting is made for,
or at least the generation does not end in a fault that is none of a session or a generation. -/
theorem evaluate_closes {bench after : Bench} {outcome : Except Fault Verdict}
    (fit : bench.CanDraft ∨ ¬Misgenerates bench)
    (before : ∀ admin ∈ bench.admin, ∀ number, admin.connection = some number →
      number ≤ bench.server.connections.length)
    (ended : evaluate bench = (outcome, after)) :
    (∀ session : Session, session.Granted (asked bench) → session.isClosed after.server = true) ∧
      after.sessionCount = bench.sessionCount + (asked bench).length ∧
        ∃ numbers, after.server.closings = bench.server.closings ++ numbers ∧
          (∀ number ∈ numbers, ∃ session : Session, session.Granted (asked bench) ∧
            session.connection = some number) ∧
          ∀ admin : Session, admin ∈ bench.admin ∨ admin ∈ after.admin →
            ∀ number ∈ numbers, admin.connection ≠ some number := by
  have accounted := evaluate_accounted bench
  rw [ended] at accounted
  have stays : ¬(¬bench.CanDraft ∧ Misgenerates bench) :=
    fun ⟨unfit, strays⟩ => fit.elim unfit fun clean => clean strays
  have closed (session : Session) (granted : session.Granted (asked bench)) :
      session.isClosed after.server = true := by
    rcases accounted.settled session granted with closed | held | strays
    · exact closed
    · exact absurd held List.not_mem_nil
    · exact absurd strays stays
  obtain ⟨numbers, closings, theirs⟩ := accounted.closes.closings
  refine ⟨closed, accounted.counted, numbers, closings, theirs, fun admin member number inside same => ?_⟩
  obtain ⟨session, granted, named⟩ := theirs number inside
  -- a session for setup statements of before has a lower number than any that was granted since
  have earlier (there : admin ∈ bench.admin) : False := by
    obtain ⟨place, placed, above, _⟩ := accounted.fresh session granted
    have within := before admin there number same
    rw [named] at placed
    cases placed
    omega
  rcases member with there | there
  · exact earlier there
  · rcases accounted.admin admin there with there | ⟨place, placed, _, _, distinct⟩
    · exact earlier there
    · rw [same] at placed
      cases placed
      exact distinct session granted named

end Check

namespace Sample

/-- A bench on which the second one of two transactions loses its session while its data statement is
drafted. The session for setup statements is there already. -/
def halfway : Bench where
  settings := { minSize := .integer 1, maxSize := .integer 1, batchSize := .integer 2 }
  server := { connections := [{}] }
  admin := some ⟨some 1, "admin"⟩
  randomness := ⟨.integer 0, ⟨List.replicate 16 0, ⟨#[], 0⟩⟩, [], [], []⟩
  synthesizer := .scripted (.integer 0) (some ("gone", .integer 2)) 0

theorem halfway_canDraft : halfway.CanDraft where
  size := ⟨1, rfl⟩
  attempts := ⟨50, rfl⟩
  probability := .inl ⟨_, rfl⟩
  level := ⟨_, rfl⟩
  pattern := ⟨_, rfl⟩
  readable := ⟨nofun, nofun⟩
  counts := ⟨⟨0, rfl⟩, fun text first same => by cases same; exact ⟨2, rfl⟩⟩

/-- Both sessions are granted there, and the check is given up. -/
theorem halfway_abandoned :
    (Check.asked halfway).map (·.toOption.bind (·.connection)) = [some 2, some 3] ∧
      (Check.evaluate.fault? halfway).map Fault.message =
        some "Session fault while generating transaction 2: gone" := by
  decide +kernel

end Sample

/-- The session of a transaction that is given up halfway is closed, and that of the one before. -/
theorem Check.evaluate_closes_halfway :
    ∃ fault after, evaluate Sample.halfway = (.error fault, after) ∧ after.sessionCount = 2 ∧
      ∃ first second : Session, asked Sample.halfway = [.ok first, .ok second] ∧
        first.isClosed after.server = true ∧ second.isClosed after.server = true := by
  obtain ⟨granted, seen⟩ := Sample.halfway_abandoned
  obtain ⟨fault, after, ended, _⟩ := Task.fails_of_map seen
  obtain ⟨closed, counted, _⟩ := evaluate_closes (.inl Sample.halfway_canDraft)
    (fun admin member number same => by cases member; cases same; decide) ended
  have two : (asked Sample.halfway).length = 2 := by simpa using congrArg List.length granted
  obtain ⟨one, other, both⟩ := List.length_eq_two.1 two
  rw [both] at granted closed
  rw [two] at counted
  cases one with
  | error cause => cases granted
  | ok first =>
    cases other with
    | error cause => simp [Except.toOption] at granted
    | ok second =>
      refine ⟨fault, after, ended, counted, first, second, both, ?_, ?_⟩
      · exact closed first List.mem_cons_self
      · exact closed second (List.mem_cons_of_mem _ (List.mem_singleton_self _))

end SerialCheck

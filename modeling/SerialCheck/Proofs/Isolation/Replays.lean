import SerialCheck.Proofs.Generated.Batches
import SerialCheck.Proofs.Isolation.Lockstep

/-!
# Serial runs in lockstep

Each transaction of a serial run opens by its `BEGIN`, which makes the engines alike whatever its session was
left with, and alike they stay until the transaction ends. If the `BEGIN` itself is cut, so is
everything behind it, and a rollback is all that is sent. So a serial run of generated
transactions goes in lockstep from twin scenes (`Run.lockstep_replayAll`).
-/
namespace SerialCheck

/-- A decimal number that is not above zero has no sign or a negative one, and is below every positive
whole number. -/
theorem Decimal.order?_whole {number : Decimal} (place : Nat)
    (low : (number.order? (.finite false 0 0)).any (·.isLE) = true) :
    (number.order? (.finite false place 0)).any (·.isLE) = true := by
  cases place with
  | zero => exact low
  | succ place =>
    have zero : (Decimal.finite false 0 0).rank = 0 := rfl
    have one : (Decimal.finite false (place + 1) 0).rank = 1 := by simp [rank]
    unfold order? at low ⊢
    rw [zero] at low
    rw [one]
    cases nan : number.isNan with
    | true => simp [nan] at low
    | false =>
      have whole : (Decimal.finite false (place + 1) 0).isNan = false := rfl
      have none : (Decimal.finite false 0 0).isNan = false := rfl
      simp only [nan, whole, none, Bool.or_self, Bool.false_eq_true, ↓reduceIte] at low ⊢
      have rank : number.rank ≤ 0 := by
        by_contra above
        have order : compare number.rank 0 = .gt := Int.compare_eq_gt.2 (by omega)
        simp [order] at low
      have order : compare number.rank 1 = .lt := Int.compare_eq_lt.2 (by omega)
      rw [order]
      rfl

namespace Number

/-- What is not above zero is above no place. -/
theorem le_whole_of_le_zero {number : Number} (place : Nat) (low : number.le (.whole 0) = true) :
    number.le (.whole place) = true := by
  have above : ((0 : Int) : Rat) ≤ ((place : Int) : Rat) :=
    Rat.intCast_le_intCast.2 (Int.natCast_nonneg place)
  cases number with
  | whole value =>
    simp only [le, quantity?, Quantity.le, decide_eq_true_eq] at low ⊢
    exact Rat.le_trans low above
  | binary value =>
    simp only [le, quantity?] at low ⊢
    cases held : value.quantity with
    | finite value =>
      simp only [held, Quantity.le, decide_eq_true_eq] at low ⊢
      exact Rat.le_trans low above
    | minusInfinity => rfl
    | infinity =>
      rw [held] at low
      cases low
    | nan =>
      rw [held] at low
      cases low
  | decimal value =>
    have positive : (Number.whole place).toDecimal = .finite false place 0 := by simp [toDecimal]
    show (value.order? (Number.whole place).toDecimal).any (·.isLE) = true
    rw [positive]
    exact Decimal.order?_whole place low

/-- No whole number makes a comparison meaningless that is none with zero. -/
theorem isMuddled_whole (number : Number) (place : Nat) :
    (Number.whole place).isMuddled number = (Number.whole 0).isMuddled number := by
  simp [isMuddled, isDecimal, toDecimal, Decimal.isNan]

end Number

/-- If the first place is at a cut or behind it, so is every other one. -/
theorem Value.isAtLeast_place {cut : Value} (place : Nat)
    (first : (Value.integer 0).isAtLeast cut = .ok true) :
    (Value.integer place).isAtLeast cut = .ok true := by
  have compared : ∀ number : Int, (Value.integer number).isAtLeast cut =
      compareNumbers .atLeast (.integer number) cut := by
    intro number
    cases cut <;> rfl
  rw [compared] at first ⊢
  unfold compareNumbers at first ⊢
  cases held : cut.number? with
  | none =>
    rw [held] at first
    cases first
  | some number =>
    have start : (Value.integer 0).number? = some (.whole 0) := rfl
    have later : (Value.integer place).number? = some (.whole place) := rfl
    rw [held, start] at first
    rw [later]
    simp only [Relation.holds, Number.isMuddled_whole] at first ⊢
    split at first
    · cases first
    next clear =>
      have low : number.le (.whole 0) = true := Except.ok.inj first
      rw [if_neg clear, Number.le_whole_of_le_zero place low]

/-- No statement of a transaction that the engine understands creates or drops a table. -/
theorem Transaction.Spoken.keepsTables {transaction : Transaction} (spoken : transaction.Spoken)
    {statement : Statement} (member : statement ∈ transaction.statements) :
    statement.command.KeepsTables := by
  rcases List.mem_cons.1 member with rfl | behind
  · rw [spoken.opening]
    exact ⟨nofun, nofun⟩
  rcases List.mem_append.1 behind with inside | last
  · cases reads : statement.kind.returnsRows with
    | true =>
      obtain ⟨name, read⟩ := spoken.read statement inside reads
      rw [read]
      exact Command.keepsTables_read name
    | false =>
      obtain ⟨name, write⟩ := spoken.write statement inside reads
      rw [write]
      exact ⟨nofun, nofun⟩
  · rw [List.mem_singleton.1 last, spoken.closing]
    split
    · exact ⟨nofun, nofun⟩
    · exact Command.keepsTables_rollback

namespace Run

open SerialCheck.Task

variable {related : Scene → Scene → Prop} {admin : Session} {batch : Batch}
  {transaction : OpenTransaction} {id cut : Value}

/-- If the opening statement of a numbered transaction is cut, all its statements are. -/
theorem isCut_of_opening (numbered : transaction.Numbered)
    (first : isCut cut transaction.opening = .ok true) {statement : Statement}
    (member : statement ∈ transaction.statements) : isCut cut statement = .ok true := by
  obtain ⟨place, found⟩ := List.getElem?_of_mem member
  have start := (numbered.statements 0 transaction.opening rfl).2
  have here := (numbered.statements place statement found).2
  cases cut with
  | null => cases first
  | _ =>
    unfold isCut at first ⊢
    rw [start] at first
    rw [here]
    exact Value.isAtLeast_place place first

/-- Errors are reported in lockstep. -/
theorem lockstep_reportUnexpected (statement : Statement) (outcome : Outcome) :
    Lockstep related (reportUnexpected statement outcome) related := by
  unfold reportUnexpected
  split
  · exact lockstep_pure ()
  · refine (lockstep_use _).bind fun expected => ?_
    split
    · exact lockstep_pure ()
    · exact lockstep_log _ _

/-- Statements that are all cut are skipped in lockstep. -/
theorem lockstep_replayStatements_cut {session : Session} {statements : List Statement}
    (all : ∀ statement ∈ statements, isCut cut statement = .ok true) (trace : Trace) :
    Lockstep related (replayStatements id session cut statements trace) related := by
  induction statements generalizing trace with
  | nil => exact lockstep_pure trace
  | cons statement statements hypothesis =>
    unfold replayStatements
    rw [all statement List.mem_cons_self]
    exact hypothesis (fun other member => all other (List.mem_cons_of_mem _ member)) _

/-- The statements behind the opening one are replayed in lockstep by alike engines. -/
theorem lockstep_replayStatements (member : transaction ∈ batch) {statements : List Statement}
    (keeps : ∀ statement ∈ statements, (∃ text, statement.text = .text text) ∧
      statement.command.KeepsTables) (trace : Trace) :
    Lockstep (Scene.Within admin batch transaction.session Engine.Alike)
      (replayStatements id transaction.session cut statements trace)
      (Scene.Within admin batch transaction.session Engine.Alike) := by
  induction statements generalizing trace with
  | nil => exact lockstep_pure trace
  | cons statement statements hypothesis =>
    have others := hypothesis fun other member => keeps other (List.mem_cons_of_mem _ member)
    obtain ⟨⟨text, said⟩, command⟩ := keeps statement List.mem_cons_self
    unfold replayStatements
    refine (lockstep_use _).bind fun behind => ?_
    cases behind with
    | true => exact others _
    | false =>
      have same : statement.command = .ofText text := by rw [Statement.command, said]
      have sent : Lockstep (Scene.Within admin batch transaction.session Engine.Alike)
          (Bench.execute transaction.session statement.text)
          (Scene.Within admin batch transaction.session Engine.Alike) := by
        rw [said]
        exact Bench.lockstep_execute fun _ _ within => within.send member (same ▸ command)
      exact sent.bind fun outcome => (lockstep_reportUnexpected statement outcome).bind fun _ =>
        others _

/-- A rollback is sent in lockstep, and its failure is recorded in lockstep. -/
theorem lockstep_rollback (member : transaction ∈ batch) :
    Lockstep (Scene.Twins admin batch) (Bench.rollback transaction.session)
      (Scene.Twins admin batch) := by
  have recorded : ∀ reply, Lockstep (Scene.Twins admin batch)
      (Bench.recordRollback transaction.session reply) (Scene.Twins admin batch) := by
    intro reply
    unfold Bench.recordRollback
    split
    · exact lockstep_log _ _
    · exact lockstep_pure ()
  have sent : Lockstep (Scene.Twins admin batch) (Bench.sendRollback transaction.session)
      (Scene.Twins admin batch) :=
    (Bench.lockstep_send fun _ _ twins => twins.rollback member).bind fun reply =>
      (recorded reply).bind fun _ => lockstep_pure reply
  have awaited : ∀ reply, Lockstep (Scene.Twins admin batch) (discard (Bench.outcomeOf reply))
      (Scene.Twins admin batch) := by
    intro reply
    show Lockstep _ (Function.const Outcome PUnit.unit <$> Bench.outcomeOf reply) _
    exact (lockstep_release reply.result).map _
  exact sent.bind awaited

/-- A transaction is replayed in lockstep. -/
theorem lockstep_replay (generated : transaction.Generated) (member : transaction ∈ batch)
    (trace : Trace) :
    Lockstep (Scene.Twins admin batch) (replay transaction id cut trace)
      (Scene.Twins admin batch) := by
  obtain ⟨numbered, spoken⟩ := generated.numbered_spoken
  have played : Lockstep (Scene.Twins admin batch)
      (replayStatements id transaction.session cut transaction.statements trace)
      (Scene.Twins admin batch) := by
    obtain ⟨text, said⟩ := spoken.text transaction.opening List.mem_cons_self
    have opens : Command.ofText text = .begin := by
      have command := spoken.opening
      rwa [Statement.command, said] at command
    have rest : ∀ statement ∈ transaction.data ++ [transaction.closing],
        (∃ text, statement.text = .text text) ∧ statement.command.KeepsTables := fun _ inside =>
      ⟨spoken.text _ (List.mem_cons_of_mem _ inside),
        spoken.keepsTables (List.mem_cons_of_mem _ inside)⟩
    cases judged : isCut cut transaction.opening with
    | error cause =>
      show Lockstep _ (replayStatements id transaction.session cut
        (transaction.opening :: (transaction.data ++ [transaction.closing])) trace) _
      unfold replayStatements
      rw [judged]
      exact lockstep_throw_bind _ _
    | ok behind =>
      cases behind with
      | true =>
        exact lockstep_replayStatements_cut
          (fun _ inside => isCut_of_opening numbered judged inside) trace
      | false =>
        have sent : Lockstep (Scene.Twins admin batch)
            (Bench.execute transaction.session transaction.opening.text)
            (Scene.Within admin batch transaction.session Engine.Alike) := by
          rw [said]
          exact Bench.lockstep_execute fun _ _ twins => twins.begin member said opens
        show Lockstep _ (replayStatements id transaction.session cut
          (transaction.opening :: (transaction.data ++ [transaction.closing])) trace) _
        unfold replayStatements
        rw [judged]
        refine sent.bind fun outcome =>
          (lockstep_reportUnexpected transaction.opening outcome).bind fun _ => ?_
        exact (lockstep_replayStatements member rest _).mono fun _ _ within => within.twins
  refine played.bind fun trace => ?_
  split
  · exact lockstep_pure _
  · exact (lockstep_rollback member).bind fun _ => lockstep_pure _

/-- What is done with a transaction that is looked up has to go in lockstep for each of the batch. -/
theorem lockstep_member_bind {α : Type} {next : OpenTransaction → Task α}
    {after : Scene → Scene → Prop}
    (further : ∀ transaction ∈ batch, Lockstep related (next transaction) after) :
    Lockstep related (member batch id >>= next) after := by
  unfold member
  cases id.unfit? with
  | some cause => exact lockstep_throw_bind _ _
  | none =>
    cases found : batch.find? id with
    | none => exact lockstep_throw_bind _ _
    | some transaction =>
      exact further transaction (List.mem_reverse.1 (List.mem_of_find?_eq_some found))

/-- So are the transactions of a batch, in whatever order. -/
theorem lockstep_replayAll (each : ∀ transaction ∈ batch, transaction.Generated)
    (aborts : List (Value × Value)) (order : List Value) (trace : Trace) :
    Lockstep (Scene.Twins admin batch) (replayAll batch aborts order trace)
      (Scene.Twins admin batch) := by
  induction order generalizing trace with
  | nil => exact lockstep_pure trace
  | cons id order hypothesis =>
    unfold replayAll
    refine lockstep_member_bind fun transaction member => ?_
    exact (lockstep_replay (each transaction member) member trace).bind hypothesis

end Run

end SerialCheck

import SerialCheck.Proofs.Sent.Setup
import SerialCheck.Proofs.Serial.Replay

/-!
# What a serial run sends

While transactions are replayed one after the other, the trace accounts for the texts that were sent over
the session of each one: the replay of a transaction sends what it adds to the trace, and nothing over
the sessions of the others (`Run.replayAll_accounts`).
-/
namespace SerialCheck

namespace Run

/-- What was sent over the session of a transaction is what it was sent at first and, after that, what
the trace accounts for. -/
structure Accounts (transaction : OpenTransaction) (start : List Value) (trace : Trace)
    (bench : Bench) : Prop where
  /-- The texts. -/
  hears : bench.Hears transaction.session (start ++ trace.textsOf transaction.id)
  /-- The aborted transactions are known by whole numbers. -/
  keys : ∀ entry ∈ trace.abortedAt, entry.1.IsWhole

variable {one transaction : OpenTransaction} {start : List Value} {trace result : Trace}
  {bench after : Bench} {id cut : Value}

open SerialCheck.Bench SerialCheck.Task

theorem maintains_reportUnexpected {session : Session} {texts : List Value} (statement : Statement)
    (outcome : Outcome) :
    Maintains (Hears session texts) (reportUnexpected statement outcome) := by
  intro bench result after hears returned
  exact hears.of_scene (reportUnexpected_returns returned).scene

/-- A snapshot is neither a result nor an abort. -/
theorem noteSnapshot_eq (trace : Trace) (id : Value) (statement : Statement) :
    ∃ snapshotOrder, noteSnapshot trace id statement = { trace with snapshotOrder } := by
  unfold noteSnapshot
  split
  · exact ⟨_, rfl⟩
  · exact ⟨trace.snapshotOrder, rfl⟩

/-- The statements of a transaction are sent as the trace accounts for them. -/
theorem replayStatements_accounts {statements : List Statement}
    (own : ∀ statement ∈ statements, statement.transaction = one.id)
    (accounts : Accounts one start trace bench) (going : trace.abortOf? one.id = none)
    (returned : (replayStatements id one.session cut statements trace).Returns bench result after) :
    Accounts one start result after ∧ result.abortOf? one.id = none ∧
      (result.resultsOf one.id).map (·.statement) =
        (trace.resultsOf one.id).map (·.statement) ++ statements := by
  induction statements generalizing trace bench with
  | nil =>
    obtain ⟨rfl, rfl⟩ := returns_pure.1 returned
    exact ⟨accounts, going, by simp⟩
  | cons statement rest hypothesis =>
    have mine : statement.transaction = one.id := own statement List.mem_cons_self
    have others : ∀ other ∈ rest, other.transaction = one.id := fun other inside =>
      own other (List.mem_cons_of_mem _ inside)
    rcases replayStatements_cons returned with
      ⟨_, returned⟩ | ⟨_, outcome, between, answered, agrees, returned⟩
    · have texts : (trace.record (skipped statement false)).textsOf one.id = trace.textsOf one.id :=
        (Trace.textsOf_record mine going).trans (List.append_nil _)
      have recorded : Accounts one start (trace.record (skipped statement false)) bench :=
        ⟨texts ▸ accounts.hears, accounts.keys⟩
      obtain ⟨accounted, kept, listed⟩ := hypothesis others recorded going returned
      refine ⟨accounted, kept, listed.trans ?_⟩
      rw [Trace.resultsOf_record (show (skipped statement false).statement.transaction = _ from mine)]
      simp [skipped]
    · obtain ⟨snapshots, noted⟩ := noteSnapshot_eq trace id statement
      rw [noted] at returned
      have texts : (Trace.record { trace with snapshotOrder := snapshots }
          (resultOf statement outcome false)).textsOf one.id =
            trace.textsOf one.id ++ [statement.text] := Trace.textsOf_record mine going
      have heard := (accounts.hears.own answered).of_scene agrees.scene
      rw [List.append_assoc, ← texts] at heard
      obtain ⟨accounted, kept, listed⟩ := hypothesis others ⟨heard, accounts.keys⟩ going returned
      refine ⟨accounted, kept, listed.trans ?_⟩
      rw [Trace.resultsOf_record
        (show (resultOf statement outcome false).statement.transaction = _ from mine)]
      simp [resultOf, Trace.resultsOf]

/-- So are all texts when a transaction is replayed. -/
theorem replay_accounts (numbered : one.toTransaction.Numbered)
    (accounts : Accounts one start trace bench) (going : trace.abortOf? one.id = none)
    (returned : (replay one one.id cut trace).Returns bench result after) :
    Accounts one start result after ∧ (result.resultsOf one.id).map (·.statement) =
      (trace.resultsOf one.id).map (·.statement) ++ one.statements := by
  obtain ⟨replayed, between, replaying, ending⟩ := replay_cases returned
  obtain ⟨accounted, kept, listed⟩ :=
    replayStatements_accounts (fun _ => numbered.transaction_eq) accounts going replaying
  rcases ending with ⟨_, rfl, rfl⟩ | ⟨_, rfl, rolled⟩
  · exact ⟨⟨accounted.hears, accounted.keys⟩, listed⟩
  · obtain ⟨outcome, answered⟩ := rollback_answered rolled
    have heard := accounted.hears.own answered
    rw [List.append_assoc, ← Trace.textsOf_abort kept cut] at heard
    exact ⟨⟨heard.of_scene (rollback_returns rolled).scene,
      Value.forall_key_put Value.IsWhole numbered.id accounted.keys⟩, listed⟩

/-- The replay of a transaction sends nothing over the sessions of others. -/
theorem maintains_replay {session : Session} {texts : List Value}
    (apart : session.connection ≠ transaction.session.connection) :
    Maintains (Hears session texts) (replay transaction id cut trace) := by
  have statements : ∀ statements trace,
      Maintains (Hears session texts)
        (replayStatements id transaction.session cut statements trace) := by
    intro statements
    induction statements with
    | nil => exact fun trace => maintains_pure trace
    | cons statement rest hypothesis =>
      refine fun trace => (maintains_use _).bind fun behind => ?_
      split
      · exact hypothesis _
      · refine (maintains_execute apart _).bind fun outcome => ?_
        exact (maintains_reportUnexpected statement outcome).bind fun _ => hypothesis _
  refine (statements _ _).bind fun trace => ?_
  split
  · exact maintains_pure _
  · exact (maintains_rollback apart).bind fun _ => maintains_pure _

/-- Nor does it change what the trace says about others. -/
theorem replay_other (numbered : transaction.toTransaction.Numbered) (whole : one.id.IsWhole)
    (apart : transaction.id ≠ one.id) (keys : ∀ entry ∈ trace.abortedAt, entry.1.IsWhole)
    (returned : (replay transaction transaction.id cut trace).Returns bench result after) :
    result.resultsOf one.id = trace.resultsOf one.id ∧
      result.abortOf? one.id = trace.abortOf? one.id ∧
        ∀ entry ∈ result.abortedAt, entry.1.IsWhole := by
  obtain ⟨results, replayed, _, rfl⟩ := replay_returns returned
  refine ⟨?_, ?_, ?_⟩
  · have none : results.filter (·.statement.transaction.alike one.id) = [] := by
      refine List.filter_eq_nil_iff.2 fun result member => ?_
      obtain ⟨statement, own, played⟩ := exists_related_of_mem_right replayed member
      rw [played.statement_eq, numbered.transaction_eq own, numbered.id.not_alike whole apart]
      exact Bool.false_ne_true
    simp [Trace.resultsOf, afterReplay, none]
  · unfold Trace.abortOf? afterReplay
    simp only
    split
    · rfl
    · exact Value.lookup_put_other numbered.id whole apart keys
  · unfold afterReplay
    simp only
    split
    · exact keys
    · exact Value.forall_key_put Value.IsWhole numbered.id keys

variable {batch : Batch}

/-- When transactions are replayed, each at most once, the trace goes on accounting for the texts that
were sent over the session of each one, and each one that is replayed has results for its statements in
order. -/
theorem replayAll_accounts (numbered : batch.Numbered) (member : one ∈ batch)
    (sessions : ∀ other ∈ batch, one.session.connection = other.session.connection → one = other)
    {aborts : List (Value × Value)} {order : List Value} (known : ∀ id ∈ order, id ∈ batch.ids)
    (once : order.Nodup) (accounts : Accounts one start trace bench)
    (fresh : one.id ∈ order → trace.resultsOf one.id = [] ∧ trace.abortOf? one.id = none)
    (returned : (replayAll batch aborts order trace).Returns bench result after) :
    Accounts one start result after ∧ (result.resultsOf one.id).map (·.statement) =
      if one.id ∈ order then one.statements else (trace.resultsOf one.id).map (·.statement) := by
  induction order generalizing trace bench with
  | nil =>
    obtain ⟨rfl, rfl⟩ := returns_pure.1 returned
    exact ⟨accounts, by simp⟩
  | cons id rest hypothesis =>
    obtain ⟨transaction, held, rfl⟩ := List.mem_map.1 (known id List.mem_cons_self)
    obtain ⟨unlisted, others⟩ := List.nodup_cons.1 once
    have further : ∀ id ∈ rest, id ∈ batch.ids := fun id inside =>
      known id (List.mem_cons_of_mem _ inside)
    simp only [replayAll, returns_bind, numbered.member_returns held] at returned
    obtain ⟨_, _, ⟨looked, stayed⟩, later, between, replaying, returned⟩ := returned
    rw [looked, stayed] at replaying
    by_cases same : transaction = one
    · subst same
      obtain ⟨empty, going⟩ := fresh List.mem_cons_self
      obtain ⟨accounted, listed⟩ := replay_accounts (numbered.each _ member) accounts going replaying
      obtain ⟨still, kept⟩ :=
        hypothesis further others accounted (fun inside => absurd inside unlisted) returned
      refine ⟨still, ?_⟩
      rw [kept, if_neg unlisted, if_pos List.mem_cons_self, listed, empty]
      rfl
    · have apart : transaction.id ≠ one.id := fun ids => same (numbered.eq_of_id held member ids)
      have unheard : one.session.connection ≠ transaction.session.connection := fun shared =>
        same (sessions transaction held shared).symm
      obtain ⟨results, abort, keys⟩ := replay_other (numbered.each _ held)
        (numbered.id_isWhole member) apart accounts.keys replaying
      have hears := maintains_replay unheard _ _ _ accounts.hears replaying
      have texts : later.textsOf one.id = trace.textsOf one.id := by
        rw [Trace.textsOf, Trace.textsOf, results, abort]
      obtain ⟨still, kept⟩ := hypothesis further others ⟨texts ▸ hears, keys⟩
        (fun inside => results ▸ abort ▸ fresh (List.mem_cons_of_mem _ inside)) returned
      refine ⟨still, ?_⟩
      rw [kept, results]
      simp [apart.symm]

/-- A serial run in an order of all its transactions sends over the session of each one what the trace
accounts for. -/
theorem serial_accounts (numbered : batch.Numbered) (member : one ∈ batch)
    (sessions : ∀ other ∈ batch, one.session.connection = other.session.connection → one = other)
    {reference : Option Trace} {order : Value} {listed : List Value}
    (chosen : chosenOrder batch reference order = .ok listed) (permuted : listed.Perm batch.ids)
    (hears : bench.Hears one.session start)
    (returned : (serial batch reference order).Returns bench result after) :
    after.Hears one.session (start ++ result.textsOf one.id) ∧
      (result.resultsOf one.id).map (·.statement) = one.statements := by
  simp only [serial, returns_bind, returns_use] at returned
  obtain ⟨order, _, ⟨found, stayed⟩, replaying⟩ := returned
  rw [stayed, Except.ok.inj (found.symm.trans chosen)] at replaying
  have first : Accounts one start {} bench := by
    refine ⟨?_, fun _ member => absurd member List.not_mem_nil⟩
    rw [show ({} : Trace).textsOf one.id = [] from rfl, List.append_nil]
    exact hears
  obtain ⟨accounted, all⟩ := replayAll_accounts numbered member sessions
    (fun id inside => permuted.subset inside) (permuted.nodup_iff.2 numbered.distinct) first
    (fun _ => ⟨rfl, rfl⟩) replaying
  rw [if_pos (permuted.symm.subset (Batch.id_mem member))] at all
  exact ⟨accounted.hears, all⟩

end Run

end SerialCheck

import SerialCheck.Proofs.Interleaved.Breaks
import SerialCheck.Proofs.Serial.Played
import SerialCheck.Proofs.Setup.Equipped

/-!
# Faults of serial runs

A serial run of a plain batch that goes by an order of its transactions has no faults but those of
sessions, and leaves an equipped scene (`Run.safe_serial`).
-/
namespace SerialCheck

open SerialCheck.Task

/-- The texts of a plain batch leave a scene equipped. -/
theorem Batch.Plain.preserves_equipped {batch : Batch} (plain : batch.Plain) :
    batch.Preserves Scene.Equipped where
  statement := by
    intro scene equipped transaction member statement own
    obtain ⟨⟨text, said⟩, _⟩ := plain transaction member statement own
    rw [said]
    exact equipped.send transaction.session text
  rollback := fun scene equipped transaction _ =>
    equipped.send transaction.session Bench.rollbackText

/-- Begun on an equipped scene, the task leaves one, and its only faults are those of sessions. -/
def Task.Safe {α : Type} (task : Task α) : Prop :=
  Ensures (fun bench => bench.scene.Equipped) Fault.IsSession task fun _ bench =>
    bench.scene.Equipped

/-- A serial run goes by an order of all transactions and by places at which transactions were aborted,
which are whole numbers. -/
structure Run.Orderly (batch : Batch) (reference : Option Trace) (order : Value) : Prop where
  /-- The order is one of all transactions. -/
  order : ∃ listed : List Value, order = .array listed ∧ listed.Perm batch.ids
  /-- The aborts of the reference are those of transactions at places. -/
  aborts : ∀ trace, reference = some trace →
    ∀ entry ∈ trace.abortedAt, entry.1.IsWhole ∧ entry.2.IsWhole

namespace Run

variable {batch : Batch} {transaction : OpenTransaction} {statement : Statement}

/-- Executing a text is safe. -/
theorem safe_execute (session : Session) {text : Value} (written : ∃ said, text = .text said) :
    (Bench.execute session text).Safe :=
  (Bench.upkeep_equipped.execute session written).mono (fun _ held => held) fun _ _ kept => kept.1

/-- So is the report of an error of a plain statement. -/
theorem safe_reportUnexpected (clean : statement.strays = []) (outcome : Outcome) :
    (reportUnexpected statement outcome).Safe where
  returns := fun _ _ _ equipped returned => (reportUnexpected_returns returned).scene ▸ equipped
  fails := by
    intro bench fault after _ failed
    obtain ⟨other, returned⟩ :
        ∃ other, (reportUnexpected statement outcome).Returns bench () other :=
      exists_reportUnexpected bench (.inl clean)
    exact (failed.not_returns returned).elim

/-- So is a rollback. -/
theorem safe_rollback (session : Session) : (Bench.rollback session).Safe where
  returns := by
    intro bench result after equipped returned
    rw [(Bench.rollback_returns returned).scene]
    exact equipped.send session Bench.rollbackText
  fails := by
    intro bench fault after equipped failed
    rcases fails_bind.1 failed with unsent | ⟨reply, between, sent, lost⟩
    · exact (not_sendRollback_fails unsent).elim
    · obtain ⟨rfl, _⟩ := Bench.sendRollback_returns sent
      simp only [fails_discard, Bench.outcomeOf, fails_release] at lost
      exact equipped.reply_fault lost.1

/-- A whole place is compared with the place of a numbered statement. -/
theorem exists_isCut {cut : Value} (place : cut = .null ∨ cut.IsWhole)
    (whole : statement.index.IsWhole) : ∃ answer, isCut cut statement = .ok answer := by
  rcases place with rfl | ⟨number, rfl⟩
  · exact ⟨false, rfl⟩
  · obtain ⟨index, same⟩ := whole
    exact ⟨_, (congrArg (·.isAtLeast (.integer number)) same).trans (Value.isAtLeast_integer _ _)⟩

/-- The replay of plain statements is safe. -/
theorem safe_replayStatements (id : Value) (session : Session) {cut : Value}
    (place : cut = .null ∨ cut.IsWhole) {statements : List Statement}
    (plain : ∀ statement ∈ statements, ((∃ text, statement.text = .text text) ∧
      statement.strays = []) ∧ statement.index.IsWhole) (trace : Trace) :
    (replayStatements id session cut statements trace).Safe := by
  induction statements generalizing trace with
  | nil => exact ensures_pure fun _ equipped => equipped
  | cons statement rest hypothesis =>
    obtain ⟨⟨written, clean⟩, whole⟩ := plain statement List.mem_cons_self
    obtain ⟨answer, judged⟩ := exists_isCut place whole
    have later := hypothesis fun other inside => plain other (List.mem_cons_of_mem _ inside)
    rw [replayStatements, judged]
    refine Ensures.through (fun _ bench => bench.scene.Equipped)
      (ensures_use (fun _ _ equipped _ => equipped) fun _ _ _ impossible => by cases impossible)
      fun behind => ?_
    cases behind with
    | true => exact later _
    | false =>
      refine (safe_execute session written).bind fun outcome => ?_
      exact (safe_reportUnexpected clean outcome).bind fun _ => later _

/-- So is that of a transaction. -/
theorem safe_replay (numbered : batch.Numbered) (plain : batch.Plain) (member : transaction ∈ batch)
    (id : Value) {cut : Value} (place : cut = .null ∨ cut.IsWhole) (trace : Trace) :
    (replay transaction id cut trace).Safe := by
  have replayed := safe_replayStatements id transaction.session place
    (fun statement own =>
      ⟨plain transaction member statement own, (numbered.each transaction member).index_isWhole own⟩)
    trace
  refine replayed.bind fun noted => ?_
  split
  · exact ensures_pure fun _ equipped => equipped
  · exact (safe_rollback transaction.session).bind fun _ => ensures_pure fun _ equipped => equipped

/-- So is that of the transactions of the batch in any order. -/
theorem safe_replayAll (numbered : batch.Numbered) (plain : batch.Plain)
    {aborts : List (Value × Value)} (whole : ∀ entry ∈ aborts, entry.1.IsWhole ∧ entry.2.IsWhole)
    {order : List Value} (known : ∀ id ∈ order, id ∈ batch.ids) (trace : Trace) :
    (replayAll batch aborts order trace).Safe := by
  induction order generalizing trace with
  | nil => exact ensures_pure fun _ equipped => equipped
  | cons id rest hypothesis =>
    obtain ⟨transaction, member, rfl⟩ := List.mem_map.1 (known id List.mem_cons_self)
    have place : (Value.lookup transaction.id aborts).getD .null = .null ∨
        ((Value.lookup transaction.id aborts).getD .null).IsWhole := by
      cases found : Value.lookup transaction.id aborts with
      | none => exact .inl rfl
      | some cut =>
        exact .inr (whole _ (Value.mem_of_lookup (numbered.id_isWhole member)
          (fun entry inside => (whole entry inside).1) found)).2
    have looked : Ensures (fun bench => bench.scene.Equipped) Fault.IsSession
        (Run.member batch transaction.id)
        fun found bench => found = transaction ∧ bench.scene.Equipped :=
      { returns := by
          intro bench found after equipped returned
          obtain ⟨rfl, rfl⟩ := (numbered.member_returns member).1 returned
          exact ⟨rfl, equipped⟩
        fails := by
          intro bench fault after _ failed
          exact (failed.not_returns ((numbered.member_returns member).2 ⟨rfl, rfl⟩)).elim }
    refine looked.bind fun found => Ensures.of_holds ?_
    rintro bench ⟨rfl, equipped⟩
    have replayed := safe_replay numbered plain member found.id place trace
    refine (replayed.bind fun later => ?_).mono (fun _ same => same ▸ equipped) fun _ _ kept => kept
    exact hypothesis (fun other inside => known other (List.mem_cons_of_mem _ inside)) later

/-- The order that a serial run goes by is one of transactions of the batch. -/
theorem Orderly.chosen {reference : Option Trace} {order : Value}
    (orderly : Orderly batch reference order) :
    ∃ listed, chosenOrder batch reference order = .ok listed ∧ ∀ id ∈ listed, id ∈ batch.ids := by
  obtain ⟨listed, rfl, permuted⟩ := orderly.order
  cases listed with
  | cons id rest => exact ⟨id :: rest, rfl, fun other inside => permuted.subset inside⟩
  | nil =>
    have nothing : batch.ids = [] := permuted.nil_eq.symm
    have none : Order.has [] = fun _ => false := rfl
    have empty : Order.preferred [] reference = [] := by
      cases reference with
      | none => rfl
      | some trace =>
        rw [Order.preferred, none, List.filter_false]
        rfl
    refine ⟨[], ?_, fun _ inside => absurd inside List.not_mem_nil⟩
    rw [chosenOrder, nothing, empty]
    rfl

/-- A serial run of a plain batch is safe. -/
theorem safe_serial (numbered : batch.Numbered) (plain : batch.Plain) {reference : Option Trace}
    {order : Value} (orderly : Orderly batch reference order) :
    (serial batch reference order).Safe := by
  obtain ⟨listed, chosen, known⟩ := orderly.chosen
  have aborts : ∀ entry ∈ reference.elim [] Trace.abortedAt,
      entry.1.IsWhole ∧ entry.2.IsWhole := by
    cases reference with
    | none => exact fun _ impossible => by cases impossible
    | some trace => exact orderly.aborts trace rfl
  rw [serial, chosen]
  refine Ensures.through (fun given bench => given = listed ∧ bench.scene.Equipped)
    (ensures_use ?_ fun _ _ _ impossible => by cases impossible) fun given => ?_
  · rintro bench _ equipped ⟨⟩
    exact ⟨rfl, equipped⟩
  · refine Ensures.of_holds ?_
    rintro bench ⟨rfl, equipped⟩
    exact (safe_replayAll numbered plain aborts known {}).mono (fun _ same => same ▸ equipped)
      fun _ _ kept => kept

end Run

end SerialCheck

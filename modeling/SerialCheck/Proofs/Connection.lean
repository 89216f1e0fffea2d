import SerialCheck.Proofs.Engine.Ended
import SerialCheck.Proofs.Interleaved.Ending
import SerialCheck.Proofs.Serial.Replay
import SerialCheck.Proofs.Setup.Rules

/-!
# Lost connections

On a server with proper rules a text that is sent over a session has an outcome, or a fault of the
session. It is a fault if the connection is closed before the text or by it; only when the answer is an
error of a statement, and not one of operation or use, is the loss of the connection overlooked and the
error taken for an outcome (`session_fault_iff_closed`, `lost_connection_overlooked`). The same holds of
the statements from which the results of a trace stem.
-/
namespace SerialCheck

/-- The result was recorded from the outcome of a statement that was sent. -/
structure StatementResult.Stems (result : StatementResult) (sending : Sending) : Prop where
  /-- It is the result of that statement. -/
  statement : result.statement = sending.statement
  /-- The session had an outcome. -/
  answered : sending.reply.result = .ok sending.outcome
  /-- The error is that of the outcome. -/
  error : result.error = .ofText? sending.outcome.error
  /-- The rows are those that are kept of the outcome. -/
  rows : result.rows = Run.keptRows sending.statement sending.outcome

/-- Each executed result stems from a statement that a transaction of the batch sent on a good scene. -/
def Trace.Stems (batch : Batch) (good : Scene → Prop) (trace : Trace) : Prop :=
  ∀ result ∈ trace.results, result.executed = .boolean true →
    ∃ sending : Sending, sending.transaction ∈ batch ∧
      sending.statement ∈ sending.transaction.statements ∧ good sending.bench.scene ∧
        result.Stems sending

namespace Run

variable {batch : Batch} {good : Scene → Prop} {start : Bench} {moment : Moment}
  {transaction : OpenTransaction}

/-- Every statement is sent on a scene that is preserved. -/
theorem Reached.preserves_sendings (preserves : batch.Preserves good)
    (reached : Reached batch start moment) (holds : good start.scene) :
    ∀ sending ∈ moment.sendings, good sending.bench.scene := by
  induction reached with
  | first => simp [Moment.first]
  | next reached step hypothesis =>
    cases step with
    | settle => exact hypothesis
    | wait => exact hypothesis
    | send first others transaction statement chosen progress bench runnable picked next sent =>
      intro sending held
      rcases List.mem_append.1 held with earlier | new
      · exact hypothesis sending earlier
      · rw [List.mem_singleton.1 new]
        exact (pick_returns picked).2.scene ▸ reached.preserves preserves holds

/-- So the results of an interleaved run stem from such scenes. -/
theorem Reached.stems (numbered : batch.Numbered) (preserves : batch.Preserves good)
    (reached : Reached batch start moment) (holds : good start.scene) :
    moment.progress.trace.Stems batch good := by
  intro result held executed
  have sound := Sound.of_reached numbered reached
  obtain ⟨transaction, member, own⟩ := sound.known.results result held
  have named := (numbered.each transaction member).transaction_eq own
  have viewed : result ∈ (moment.progress.view transaction.id).results :=
    List.mem_filter.2 ⟨held, by rw [named]; exact Value.alike_refl _⟩
  rcases (sound.standing transaction member).mem_results viewed with
    ⟨sending, sent, carries⟩ | ⟨statement, _, rfl⟩
  · have listed : sending ∈ moment.sendings := (List.mem_filter.1 sent).1
    refine ⟨sending, sound.sent sending listed, sound.asked.own listed,
      reached.preserves_sendings preserves holds sending listed, carries.statement,
      carries.answered, carries.error, ?_⟩
    rw [carries.rows]
    simp [keptRows, Outcome.succeeded]
  · cases executed

/-- A recorded result may join results that stem from good scenes, if it does. -/
theorem stems_record {trace : Trace} (stems : trace.Stems batch good) {result : StatementResult}
    (fits : result.executed = .boolean true →
      ∃ sending : Sending, sending.transaction ∈ batch ∧
        sending.statement ∈ sending.transaction.statements ∧ good sending.bench.scene ∧
          result.Stems sending) : (trace.record result).Stems batch good := by
  intro other held executed
  rcases List.mem_append.1 held with earlier | new
  · exact stems other earlier executed
  · rw [List.mem_singleton.1 new] at executed ⊢
    exact fits executed

/-- A noted snapshot does not change the results. -/
theorem stems_noteSnapshot {trace : Trace} (stems : trace.Stems batch good) (id : Value)
    (statement : Statement) : (noteSnapshot trace id statement).Stems batch good := by
  unfold noteSnapshot
  split
  · exact stems
  · exact stems

/-- A noted end does not change them. -/
theorem stems_complete {trace : Trace} (stems : trace.Stems batch good) (id : Value) :
    (trace.complete id).Stems batch good := stems

/-- Nor does an abort. -/
theorem stems_abort {trace : Trace} (stems : trace.Stems batch good) (id place : Value) :
    (abort trace id place).Stems batch good := stems

/-- The results of replayed statements stem from good scenes. -/
theorem replayStatements_stems (preserves : batch.Preserves good) (member : transaction ∈ batch)
    {id cut : Value} {statements : List Statement}
    (own : ∀ statement ∈ statements, statement ∈ transaction.statements) {trace result : Trace}
    (stems : trace.Stems batch good) {bench after : Bench} (holds : good bench.scene)
    (returned : (replayStatements id transaction.session cut statements trace).Returns bench result
      after) : result.Stems batch good := by
  induction statements generalizing trace bench with
  | nil =>
    obtain ⟨rfl, _⟩ := Task.returns_pure.1 returned
    exact stems
  | cons statement statements hypothesis =>
    have others : ∀ other ∈ statements, other ∈ transaction.statements := fun other inside =>
      own other (List.mem_cons_of_mem _ inside)
    rcases replayStatements_cons returned with
      ⟨_, further⟩ | ⟨_, outcome, between, answered, agrees, further⟩
    · have kept : (trace.record (skipped statement false)).Stems batch good :=
        stems_record stems fun impossible => by cases impossible
      exact hypothesis others kept holds further
    · -- a replayed statement stems from being sent on the bench of its turn
      let sending : Sending := ⟨transaction, statement, bench⟩
      have held : sending.reply.result = .ok outcome := answered
      have same : sending.outcome = outcome := by simp [Sending.outcome, held, Except.toOption]
      refine hypothesis others (stems_record (stems_noteSnapshot stems id statement) fun _ => ?_) ?_
        further
      · rw [← same] at held ⊢
        exact ⟨sending, member, own _ List.mem_cons_self, holds, rfl, held, rfl, rfl⟩
      · rw [agrees.scene, Bench.afterSending_scene]
        exact preserves.statement _ holds transaction member statement (own _ List.mem_cons_self)

/-- So do the results of replayed transactions. -/
theorem replayAll_stems (preserves : batch.Preserves good) {aborts : List (Value × Value)}
    {order : List Value} {trace result : Trace} (stems : trace.Stems batch good)
    {bench after : Bench} (holds : good bench.scene)
    (returned : (replayAll batch aborts order trace).Returns bench result after) :
    result.Stems batch good := by
  induction order generalizing trace bench with
  | nil =>
    obtain ⟨rfl, _⟩ := Task.returns_pure.1 returned
    exact stems
  | cons id order hypothesis =>
    simp only [replayAll, Task.returns_bind] at returned
    obtain ⟨transaction, found, looked, further, last, played, rest⟩ := returned
    obtain ⟨member, rfl⟩ := mem_of_member looked
    obtain ⟨noted, middle, replayed, ended⟩ := replay_cases played
    have kept := replayStatements_preserves preserves member (fun _ inside => inside) holds replayed
    have stem := replayStatements_stems preserves member (fun _ inside => inside) stems holds replayed
    rcases ended with ⟨_, rfl, rfl⟩ | ⟨_, rfl, rolled⟩
    · exact hypothesis (stems_complete stem id) kept rest
    · refine hypothesis (stems_complete (stems_abort stem id _) id) ?_ rest
      rw [(Bench.rollback_returns rolled).scene]
      exact preserves.rollback _ kept transaction member

/-- So do the results of every run. -/
theorem byStrategy_stems (numbered : batch.Numbered) (preserves : batch.Preserves good)
    {reference : Option Trace} {order : Value} {strategy : Strategy} {trace : Trace}
    {bench after : Bench} (holds : good bench.scene)
    (returned : (byStrategy batch reference order strategy).Returns bench trace after) :
    trace.Stems batch good := by
  cases strategy with
  | interleaved =>
    obtain ⟨last, reached, _, rfl, _⟩ := interleaved_returns numbered returned
    exact reached.stems numbered preserves holds
  | serialized =>
    simp only [byStrategy, serial, Task.returns_bind, Task.returns_use] at returned
    obtain ⟨order, _, ⟨_, rfl⟩, replayed⟩ := returned
    refine replayAll_stems preserves ?_ holds replayed
    intro result none
    cases none

/-- The results of a run stem from statements that were sent under the rules with which it began. -/
theorem run_stems (numbered : batch.Numbered) {strategy : Strategy} {reference : Option Trace}
    {order : Value} {trace : Trace} {bench after : Bench}
    (returned : (run batch strategy reference order).Returns bench trace after) :
    trace.Stems batch fun scene => scene.server.policy = bench.server.policy := by
  obtain ⟨start, ran, between, contents, prepared, _, running, _, rfl⟩ := run_returns.1 returned
  have begun : start.server.policy = bench.server.policy := (prepare_actsAs prepared).policy
  have stems : ran.Stems batch fun scene => scene.server.policy = bench.server.policy :=
    byStrategy_stems numbered (preserves_policy batch bench.server.policy) begun running
  exact stems

end Run

/-- The statement was sent over an open session, which was still open afterwards unless the statement
met an error of its own. -/
def Sending.KeepsOpen (sending : Sending) : Prop :=
  sending.transaction.session.isClosed sending.bench.server = false ∧
    (sending.transaction.session.isClosed sending.after.server = true →
      sending.transaction.session.MeetsError sending.statement.text sending.bench.server)

/-- On a server with proper rules a text over a session has an outcome or is a fault of the session, and
it is a fault exactly if the session was closed before, or is closed afterwards and met no error of a
statement. So the executed results of a trace stem from statements whose sessions were open, and
still were afterwards unless the statement met an error of its own. -/
theorem session_fault_iff_closed {server : Server} (proper : server.Proper) :
    (∀ (session : Session) (text : String), session.Tells text server) ∧
      ∀ {batch : Batch} {strategy : Strategy} {reference : Option Trace} {order : Value}
        {bench after : Bench} {trace : Trace}, bench.server = server → batch.Numbered →
        (∀ transaction ∈ batch, ∀ statement ∈ transaction.statements,
          ∃ text, statement.text = .text text) →
        (Run.run batch strategy reference order).Returns bench trace after →
        ∀ result ∈ trace.results, result.executed = .boolean true →
          ∃ sending : Sending, sending.transaction ∈ batch ∧
            sending.statement ∈ sending.transaction.statements ∧ result.Stems sending ∧
              sending.KeepsOpen := by
  refine ⟨fun session text => Session.tells proper session text, ?_⟩
  rintro batch strategy reference order bench after trace rfl numbered written returned result held
    executed
  obtain ⟨sending, member, own, kept, stems⟩ := Run.run_stems numbered returned result held executed
  refine ⟨sending, member, own, stems, ?_⟩
  obtain ⟨text, said⟩ := written _ member _ own
  have tells := Session.tells (proper.of_rules kept) sending.transaction.session text
  have answered : (sending.transaction.session.execute (.text text) sending.bench.server).1.result =
      .ok sending.outcome := said ▸ stems.answered
  have opened := tells.of_outcome answered
  rw [← said] at opened
  exact opened

namespace Sample

/-- Commits end the connection with an error of the given kind. -/
def lossyCommit (kind : ErrorKind) : List Rule :=
  [{ start := some (.text "COMMIT"), delay := .integer 0,
     answer := .failure (.ok kind) "terminating connection" true }]

/-- The rules are proper if the error is one of the database. -/
theorem lossyCommit_proper (kind : ErrorKind) (error : kind ≠ .warning) :
    (bench (lossyCommit kind)).server.Proper := by
  intro rule listed
  rw [List.mem_singleton.1 listed]
  exact Rule.proper_of_front _ _ (.inr ⟨kind, _, _, error, rfl⟩)

/-- The session of the single transaction. -/
def session : Session := ⟨some 1, "session-1"⟩

/-- What the single transaction's run with a lossy commit records of the commit. -/
theorem single_lossyCommit :
    ((Run.run single .interleaved none .null (bench (lossyCommit .statement))).1.toOption.map
        fun trace => trace.results.getLast?.map fun result => (result.executed, result.error)) =
      some (some (.boolean true, .text "terminating connection")) := by decide +kernel

end Sample

/-- A lossy commit whose error is one of a statement: it is recorded, and the statement from which the
record stems was sent over an open session. -/
theorem session_fault_iff_closed_commit :
    (Sample.bench (Sample.lossyCommit .statement)).server.Proper ∧
      ∃ trace after result sending,
        (Run.run Sample.single .interleaved none .null).Returns
          (Sample.bench (Sample.lossyCommit .statement)) trace after ∧
        trace.results.getLast? = some result ∧ result.error = .text "terminating connection" ∧
        result.Stems sending ∧ sending.KeepsOpen := by
  refine ⟨Sample.lossyCommit_proper .statement (by decide), ?_⟩
  obtain ⟨trace, after, returned, seen⟩ := Task.returns_of_map Sample.single_lossyCommit
  obtain ⟨result, last, shown⟩ := Option.map_eq_some_iff.1 seen
  obtain ⟨executed, error⟩ := Prod.mk.inj shown
  obtain ⟨sending, _, _, stems, opened⟩ :=
    (session_fault_iff_closed (Sample.lossyCommit_proper .statement (by decide))).2 rfl
      Sample.single_numbered
      (fun transaction member statement own =>
        (Sample.single_plain transaction member statement own).1)
      returned result (List.mem_of_getLast? last) executed
  exact ⟨trace, after, result, sending, returned, last, error, stems, opened⟩

/-- The session is sent a commit on the server with lossy ones. -/
def Sample.commitOn (kind : ErrorKind) : Reply × Server :=
  session.execute (.text "COMMIT") (bench (lossyCommit kind)).server

/-- An error of a statement that ends the connection is taken for an outcome although the session was
open before and is closed afterwards; an error of operation is the fault that it should be. -/
theorem lost_connection_overlooked :
    Sample.session.isClosed (Sample.bench (Sample.lossyCommit .statement)).server = false ∧
      Sample.session.isClosed (Sample.commitOn .statement).2 = true ∧
      (Sample.commitOn .statement).1.result =
        .ok { error := some "terminating connection" } ∧
      Sample.session.isClosed (Sample.commitOn .operational).2 = true ∧
      (Sample.commitOn .operational).1.result =
        .error (.session (.lost "session-1" "terminating connection")) := by
  exact ⟨by decide, by decide +kernel, by rfl, by decide +kernel, by rfl⟩

end SerialCheck

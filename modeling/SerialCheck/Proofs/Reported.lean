import SerialCheck.Proofs.Interleaved.Owned
import SerialCheck.Proofs.Rounds
import SerialCheck.Proofs.Sessions.Accounts

/-!
# What a campaign reports

The transactions that are shown with a finding are taken from the bench, where only a check that has
generated a whole batch notes it, and nothing else of a check is seen from outside
(`Check.evaluate_noted`). So the loop of a campaign ends with the first finding, and shows and reports the
very batch that it was found in (`Campaign.loop_reports`).
-/
namespace SerialCheck

open SerialCheck.Task

/-- What is seen of a bench from outside is good. -/
def Bench.Shows (good : List Transaction × History String × Disk → Prop) (bench : Bench) : Prop :=
  good bench.outside

/-! ## What is seen of a check -/

namespace Bench

variable {good : List Transaction × History String × Disk → Prop}

/-- Work on the database is not seen from outside. -/
theorem durable_shows (good : List Transaction × History String × Disk → Prop) : Durable (Shows good) where
  beside shows beside := by rwa [Shows, beside.outside]
  sent _ _ shows := shows
  refused shows _ := shows
  administered shows _ _ := shows

/-- Nor is drafting. -/
theorem drafting_shows (good : List Transaction × History String × Disk → Prop) :
    Generation.Drafting (Shows good) := ⟨fun _ shows => shows, fun _ shows => shows⟩

theorem shows_openSession : Upholds (Shows good) openSession := by
  intro bench shows
  obtain ⟨label, asked⟩ := openSession_apply bench
  rw [asked]
  rcases connect_cases label { bench with sessionCount := bench.sessionCount + 1 } with
    ⟨_, _, ended⟩ | ⟨_, _, _, _, _, _, ended⟩ <;>
  · rw [ended]
    exact shows

theorem shows_closeSession (session : Session) : Upholds (Shows good) (closeSession session) := by
  refine upholds_get_bind fun bench shows => ?_
  split
  · exact upholds_pure _
  · refine Upholds.bind ?_ fun _ => (durable_shows good).log _ _
    exact upholds_set shows

end Bench

open Bench

/-- Generating a transaction is not seen from outside, whichever way it ends. -/
theorem Generation.shows_transaction {good : List Transaction × History String × Disk → Prop} :
    Upholds (Shows good) transaction := by
  have drafting := drafting_shows good
  have numbered : Upholds (Shows good) nextId := by
    refine upholds_get_bind fun bench _ => Upholds.bind ?_ fun _ => upholds_pure _
    exact upholds_modify fun _ shows => shows
  refine drafting.drawSize.bind fun size => numbered.bind fun id => ?_
  refine shows_openSession.caught.bind fun opened => ?_
  split
  · exact upholds_throw _
  · refine (drafting.statements _ _).caught.bind fun made => ?_
    split
    · split
      · exact (shows_closeSession _).bind fun _ => upholds_throw _
      · exact upholds_throw _
    · exact ((durable_shows good).log _ _).bind fun _ => upholds_pure _

namespace Check

variable {good : List Transaction × History String × Disk → Prop}

theorem shows_generateEach (count : Nat) (batch : Batch) :
    Upholds (Shows good) (generateEach count batch) := by
  induction count generalizing batch with
  | zero => exact upholds_pure _
  | succ count hypothesis =>
    refine Generation.shows_transaction.caught.bind fun outcome => ?_
    split
    · exact hypothesis _
    · exact upholds_pure _

theorem shows_closeEach (batch : Batch) : Upholds (Shows good) (closeEach batch) := by
  induction batch with
  | nil => exact upholds_pure _
  | cons transaction batch hypothesis => exact (shows_closeSession _).bind fun _ => hypothesis

/-- A check shows nothing and writes no files. -/
theorem silent_evaluate {shown : History String × Disk} :
    Upholds (Shows fun outside => outside.2 = shown) evaluate := by
  have durable := durable_shows fun outside => outside.2 = shown
  refine upholds_get_bind fun bench _ => (upholds_use _).bind fun count => ?_
  refine (shows_generateEach _ _).bind fun generated => Upholds.bind ?_ fun verdict => ?_
  · refine Upholds.withCleanup ?_ (shows_closeEach _)
    exact (upholds_release _).bind fun batch => durable.checkBatch (fun _ shows => shows) batch
  · exact (durable.recordVerdict _ _).bind fun _ => upholds_pure _

/-- When a check comes to a verdict, a whole batch was generated in it, and the transactions of that batch
are noted on the bench. A finding is at a statement of one of them, if it is at one. -/
theorem evaluate_noted {bench after : Bench} {verdict : Verdict}
    (returned : evaluate.Returns bench verdict after) :
    ∃ count batch rest made, bench.settings.batchSize.count = .ok count ∧
      (generateEach count.toNat []).Returns bench (.ok batch, rest) made ∧
        after.lastBatch = batch.map OpenTransaction.toTransaction ∧ FoundIn batch verdict := by
  rw [evaluate, returns_get_bind] at returned
  simp only [returns_bind, returns_use, returns_withCleanup, returns_release, returns_pure] at returned
  obtain ⟨count, bench, ⟨counted, rfl⟩, ⟨_, rest⟩, made, drawn, _, closed,
    ⟨searched, ⟨batch, _, ⟨rfl, rfl⟩, checked⟩, closing⟩, _, _, recorded, rfl, rfl⟩ := returned
  refine ⟨count, batch, rest, _, counted, drawn, ?_, yields_checkBatch batch _ _ _ checked⟩
  have durable := durable_shows fun outside => outside.1 = batch.map OpenTransaction.toTransaction
  rw [checkBatch_eq, returns_bind] at checked
  obtain ⟨_, noted, noting, ran⟩ := checked
  have begun : noted.lastBatch = batch.map OpenTransaction.toTransaction := by
    rw [returns_modify.1 noting]
  have searching := durable.checkNoted batch noted begun
  rw [show checkNoted batch noted = _ from ran] at searching
  have closing' := shows_closeEach rest searched searching
  rw [show closeEach rest searched = _ from closing] at closing'
  have recording := durable.recordVerdict rest verdict closed closing'
  rw [show recordVerdict rest verdict closed = _ from recorded] at recording
  exact recording

end Check

/-! ## What is shown and reported -/

namespace Display

variable {holds : Bench → Prop}
  (aside : ∀ {bench : Bench} (console : History String), holds bench → holds { bench with console })

include aside

theorem upholds_print (text : String) : Upholds holds (Task.print text) :=
  upholds_modify fun _ held => aside _ held

theorem upholds_lines (style : String) (texts : List String) : Upholds holds (lines style texts) := by
  induction texts with
  | nil => exact upholds_pure _
  | cons text texts hypothesis => exact (upholds_print aside _).bind fun _ => hypothesis

theorem upholds_transactions (batch : List Transaction) : Upholds holds (transactions batch) := by
  induction batch with
  | nil => exact upholds_pure _
  | cons shown batch hypothesis =>
    refine Upholds.bind ?_ fun _ => hypothesis
    refine (upholds_print aside _).bind fun _ => (upholds_print aside _).bind fun _ => ?_
    exact (upholds_lines aside _ _).bind fun _ => upholds_print aside _

theorem upholds_evidence (entries : List (String × Value)) : Upholds holds (evidence entries) := by
  induction entries with
  | nil => exact upholds_pure _
  | cons entry entries hypothesis => exact (upholds_print aside _).bind fun _ => hypothesis

/-- Showing a finding touches the console only. -/
theorem upholds_finding (shown : Finding) (batch : List Transaction) :
    Upholds holds (finding shown batch) := by
  refine (upholds_print aside _).bind fun _ => (upholds_print aside _).bind fun _ => ?_
  refine (upholds_use _).bind fun text => (upholds_print aside _).bind fun _ => ?_
  refine (upholds_print aside _).bind fun _ => (upholds_transactions aside _).bind fun _ => ?_
  split
  · exact (upholds_print aside _).bind fun _ => upholds_evidence aside _
  · exact upholds_pure _

end Display

namespace Campaign

/-- A finding is shown with the given transactions and, if a file is named, reported with them, with the seed
and with the setup log. -/
def concludeWith (output seed : Value) (setupLog : List Query) (batch : List Transaction)
    (finding : Finding) : Task Unit := do
  Display.finding finding batch
  if output.isFilled then
    writeFile output ((Report.document seed setupLog batch finding).render .indented 0)
    Display.info ("Report written to " ++ output.plain)

/-- A finding is shown and reported with what the bench knows when the loop ends. -/
theorem conclude_apply (output : Value) (finding : Finding) (bench : Bench) :
    conclude output finding bench =
      concludeWith output bench.randomness.seed bench.setupLog bench.lastBatch finding bench := by
  have read : (get : Task Bench) bench = (.ok bench, bench) := rfl
  have aside : Upholds (fun after => after.randomness = bench.randomness ∧
      after.setupLog = bench.setupLog ∧ after.lastBatch = bench.lastBatch)
      (Display.finding finding bench.lastBatch) := Display.upholds_finding (fun _ held => held) _ _
  have kept := aside bench ⟨rfl, rfl, rfl⟩
  rw [conclude, concludeWith, bind_apply, read]
  dsimp only
  rw [bind_apply, bind_apply]
  generalize Display.finding finding bench.lastBatch bench = shown at kept
  obtain ⟨shown, after⟩ := shown
  cases shown with
  | error fault => rfl
  | ok =>
    dsimp only
    split
    · obtain ⟨randomness, setupLog, lastBatch⟩ := kept
      have again : (get : Task Bench) after = (.ok after, after) := rfl
      rw [writeReport, bind_apply, again]
      dsimp only at randomness setupLog lastBatch ⊢
      rw [randomness, setupLog, lastBatch]
    · rfl

/-- Concluding a campaign touches the console and the files only. -/
theorem upholds_conclude {holds : Bench → Prop}
    (aside : ∀ {bench : Bench} (console : History String) (disk : Disk), holds bench →
      holds { bench with console, disk })
    (output : Value) (finding : Finding) : Upholds holds (conclude output finding) := by
  have shown {bench : Bench} (console : History String) (held : holds bench) :
      holds { bench with console } := aside console bench.disk held
  refine upholds_get_bind fun noted _ => (Display.upholds_finding shown _ _).bind fun _ => ?_
  split
  · refine upholds_get_bind fun reported _ => Upholds.bind ?_ fun _ => Display.upholds_print shown _
    refine upholds_get_bind fun written _ => ?_
    split
    · exact upholds_modify fun bench held => aside bench.console _ held
    · exact upholds_throw _
  · exact upholds_pure _

/-- Concluding a campaign calls no evaluation. -/
theorem Tallies.calls_conclude {evaluate : Nat → Task Verdict} {calls : Bench → List Nat}
    (tallies : Tallies evaluate calls) (output : Value) (finding : Finding) (bench : Bench) :
    calls (conclude output finding bench).2 = calls bench := by
  have aside {later : Bench} (console : History String) (disk : Disk) (same : calls later = calls bench) :
      calls { later with console, disk } = calls bench :=
    (tallies.aside later console later.journal disk).trans same
  have kept : Upholds (calls · = calls bench) (conclude output finding) := upholds_conclude aside _ _
  exact kept bench rfl

/-- In the end evaluations were called for the iterations up to the one that the loop ends with, each once
and in order. -/
theorem Tallies.calls_ending {evaluate : Nat → Task Verdict} {calls : Bench → List Nat}
    (tallies : Tallies evaluate calls) {output count : Value} {start : Bench} {done : Nat}
    {result : Except Fault Verdict} :
    calls (ending output result (left evaluate count start done)).2 =
      calls start ++ List.range' 1 (done + 1) := by
  have stood : calls (left evaluate count start done) = calls start ++ List.range' 1 (done + 1) := by
    rw [tallies.calls_left, tallies.calls_standing, List.append_assoc, List.range'_concat, Nat.one_mul,
      Nat.add_comm 1 done]
  rw [← stood]
  rcases result with fault | verdict
  · rfl
  · cases verdict with
    | consistent => rfl
    | inconsistent finding =>
      rw [ending, conclude_return]
      exact tallies.calls_conclude output finding _

/-- The rounds of a campaign that checks batches. -/
abbrev checking : Nat → Task Verdict := fun _ => Check.evaluate

/-- The loop of a campaign ends with the first finding and reports the batch that it was found in. Whatever
evaluates the iterations, the loop follows their outcomes: it returns zero exactly if all of them are
consistent or abandoned, and one exactly if there is a finding, all before it are consistent or abandoned,
and it is shown and, if a file is named, written to it; a fault of an evaluation, a finding that cannot be
shown or a file that cannot be written ends the loop and is passed on. Evaluations are called for the
iterations up to that one, each once and in order, and every spinner is stopped. If batches are checked, the
transactions that are shown and reported with a finding are those that were generated in its iteration, and
its statement, if it has one, is a statement of one of them. -/
theorem loop_reports {start : Bench} {number : Int} (whole : start.settings.iterations = .integer number)
    (output : Value) :
    (∀ evaluate, Follows evaluate output start number ∧
        (∀ calls, Tallies evaluate calls →
          (PassesUpTo evaluate (.integer number) start number.toNat →
              calls (loop evaluate output start).2 = calls start ++ List.range' 1 number.toNat) ∧
            ∀ done < number.toNat, PassesUpTo evaluate (.integer number) start done →
              ¬Passes (outcome evaluate (.integer number) start done) →
                calls (loop evaluate output start).2 = calls start ++ List.range' 1 (done + 1)) ∧
        ((∀ iteration bench, (evaluate iteration bench).2.console = bench.console) →
          ∀ done, (left evaluate (.integer number) start done).console.toList =
            start.console.toList ++ spinnerTexts (.integer number) (done + 1))) ∧
      (∀ bench, (Check.evaluate bench).2.console = bench.console) ∧
      ∀ done < number.toNat, PassesUpTo checking (.integer number) start done →
        ∀ finding, outcome checking (.integer number) start done = .ok (.inconsistent finding) →
          ∃ size batch rest made,
            (called checking (.integer number) start done).settings.batchSize.count = .ok size ∧
            (Check.generateEach size.toNat []).Returns (called checking (.integer number) start done)
              (.ok batch, rest) made ∧
            (let last := left checking (.integer number) start done
             loop checking output start = (do
               concludeWith output last.randomness.seed last.setupLog
                 (batch.map OpenTransaction.toTransaction) finding
               return 1 : Task Int) last) ∧
            ∀ statement ∈ finding.statement, ∃ transaction ∈ batch, statement ∈ transaction.statements := by
  have silent (bench : Bench) : (Check.evaluate bench).2.console = bench.console :=
    congrArg Prod.fst (@Check.silent_evaluate bench.outside.2 bench rfl)
  refine ⟨fun evaluate => ⟨follows whole, fun calls tallies => ⟨fun all => ?_, ?_⟩, console_left⟩, silent, ?_⟩
  · have shown (bench : Bench) (text : String) : calls (bench.showing text) = calls bench :=
      tallies.aside bench _ bench.journal bench.disk
    rw [(follows whole).passed all, shown, tallies.calls_standing]
  · intro done before earlier stops
    rw [(follows whole).stopped done before earlier stops, tallies.calls_ending]
  · intro done before earlier finding found
    have stops : ¬Passes (outcome checking (.integer number) start done) := by rw [found]; exact id
    have returned : Check.evaluate.Returns (called checking (.integer number) start done)
        (.inconsistent finding) (Check.evaluate (called checking (.integer number) start done)).2 :=
      Prod.ext found rfl
    obtain ⟨size, batch, rest, made, sized, drawn, noted, theirs⟩ := Check.evaluate_noted returned
    refine ⟨size, batch, rest, made, sized, drawn, ?_, theirs⟩
    have shown : (left checking (.integer number) start done).lastBatch =
        batch.map OpenTransaction.toTransaction := noted
    intro last
    rw [(follows whole).stopped done before earlier stops, found, ending, bind_apply, conclude_apply, shown]
    exact (bind_apply _ _ _).symm

end Campaign

namespace Sample

/-- The first batch is abandoned, and the tables of the second one differ in the end. -/
def abandonedThenFound : Nat → Task Verdict
  | 1 => throw (.generation .noTable)
  | 2 => return .inconsistent { reason := .finalState }
  | _ => return .consistent

/-- A bench on which three batches are checked. -/
def threeIterations : Bench where
  settings := { iterations := .integer 3 }
  randomness := ⟨.integer 0, ⟨[], ⟨#[], 0⟩⟩, [], [], []⟩

/-- The first round passes, and the second one has a finding. -/
theorem found_second :
    Campaign.PassesUpTo abandonedThenFound (.integer 3) threeIterations 1 ∧
      Campaign.outcome abandonedThenFound (.integer 3) threeIterations 1 =
        .ok (.inconsistent { reason := .finalState }) := by
  refine ⟨fun earlier before => ?_, rfl⟩
  obtain rfl : earlier = 0 := by omega
  trivial

end Sample

namespace Campaign

open Sample

/-- There the loop returns one. -/
theorem loop_reports_second :
    threeIterations.settings.iterations = .integer 3 ∧
      (loop abandonedThenFound .null threeIterations).1 = .ok 1 := by
  refine ⟨rfl, ((loop_reports rfl .null).1 abandonedThenFound).1.one.2 ⟨1, by decide, found_second.1, _,
    found_second.2, ?_⟩⟩
  rfl

/-- If the report cannot be written, the loop does not return one although there is a finding. -/
theorem loop_unwritable :
    (PassesUpTo abandonedThenFound (.integer 3) threeIterations 1 ∧
      ∃ finding, outcome abandonedThenFound (.integer 3) threeIterations 1 = .ok (.inconsistent finding)) ∧
      (loop abandonedThenFound (.text "missing/report.json") threeIterations).1 ≠ .ok 1 := by
  refine ⟨⟨found_second.1, _, found_second.2⟩, fun returned => ?_⟩
  have failed : (loop abandonedThenFound (.text "missing/report.json") threeIterations).1.isOk = false := by
    decide +kernel
  rw [returned] at failed
  cases failed

end Campaign

end SerialCheck

import SerialCheck.Campaign
import SerialCheck.Proofs.Task

/-!
# Rounds of a campaign

The loop of a campaign goes from round to round: a spinner is shown, a batch is evaluated and the spinner
is stopped, whichever way the evaluation ends (`Campaign.round`). What the rounds come to, each one begun on
the bench that the one before has left, is a sequence of outcomes (`Campaign.outcome`). The loop follows it
as long as they pass, and ends at the first one that does not (`Campaign.loop_follows`).
-/
namespace SerialCheck

open SerialCheck.Task

namespace Bench

/-- The bench with a text shown on its console. -/
def showing (bench : Bench) (text : String) : Bench :=
  { bench with console := bench.console.push text }

/-- The bench with a record in its journal. -/
def recording (bench : Bench) (level : Level) (text : String) : Bench :=
  { bench with journal := bench.journal.push (level, text) }

end Bench

namespace Campaign

/-- What is shown when the spinner of an iteration is started. -/
def startText (count : Value) (iteration : Nat) : String :=
  "<spinner cyan " ++ s!"Iteration {iteration}/{count.plain}" ++ ">" ++ "\n"

/-- What is shown when a spinner is stopped. -/
def stopText : String := "</spinner>" ++ "\n"

/-- The loop goes on after this outcome: the batch was consistent or its generation was abandoned. -/
def Passes : Except Fault Verdict → Prop
  | .ok .consistent | .error (.generation _) => True
  | .ok (.inconsistent _) | .error _ => False

/-- The generation of the batch was abandoned. -/
def isAbandoned : Except Fault Verdict → Bool
  | .error (.generation _) => true
  | _ => false

/-- The bench with the record of an iteration that was abandoned. -/
def recorded (iteration : Nat) : Except Fault Verdict → Bench → Bench
  | .error (.generation cause), bench =>
    bench.recording .debug s!"Iteration {iteration} abandoned: {cause.message}"
  | _, bench => bench

section

variable (evaluate : Nat → Task Verdict) (count : Value) (start : Bench)

/-- One iteration, with its number: the spinner is started, the batch is evaluated, and the spinner is
stopped. -/
def round (iteration : Nat) (bench : Bench) : Except Fault Verdict × Bench :=
  let ended := evaluate iteration (bench.showing (startText count iteration))
  (ended.1, ended.2.showing stopText)

/-- The bench after so many rounds. -/
def standing : Nat → Bench
  | 0 => start
  | done + 1 =>
    let ended := round evaluate count (done + 1) (standing done)
    recorded (done + 1) ended.1 ended.2

/-- The bench on which the batch of the round after so many ones is evaluated. -/
def called (done : Nat) : Bench :=
  (standing evaluate count start done).showing (startText count (done + 1))

/-- What the round after so many ones comes to. -/
def outcome (done : Nat) : Except Fault Verdict := (evaluate (done + 1) (called evaluate count start done)).1

/-- The bench that the round after so many ones leaves, with its spinner stopped. -/
def left (done : Nat) : Bench :=
  (evaluate (done + 1) (called evaluate count start done)).2.showing stopText

/-- The rounds before this number all pass. -/
def PassesUpTo (done : Nat) : Prop := ∀ earlier < done, Passes (outcome evaluate count start earlier)

/-- How many of so many rounds were abandoned. -/
def abandoned (done : Nat) : Nat :=
  (List.range done).countP fun earlier => isAbandoned (outcome evaluate count start earlier)

end

section

variable {evaluate : Nat → Task Verdict} {output count : Value} {start bench : Bench}

/-- The text is shown. -/
theorem plain_apply (text : String) : Display.plain text bench = (.ok (), bench.showing (text ++ "\n")) := rfl

/-- A spinner that is started is stopped, whichever way the task ends. -/
theorem spinner_apply {α : Type} (status : String) (task : Task α) (bench : Bench) :
    Display.spinner status task bench =
      let ended := task (bench.showing ("<spinner cyan " ++ status ++ ">" ++ "\n"))
      (ended.1, ended.2.showing stopText) := by
  rw [Display.spinner, bind_apply, plain_apply]
  dsimp only
  rw [withCleanup, bind_apply, caught_apply]
  dsimp only
  rw [bind_apply, plain_apply]
  dsimp only
  cases (task (bench.showing ("<spinner cyan " ++ status ++ ">" ++ "\n"))).1 <;> rfl

/-- A fault other than that of a generation passes through an iteration. -/
theorem iterate_apply (iteration : Nat) (bench : Bench) :
    iterate evaluate iteration count bench =
      let ended := round evaluate count iteration bench
      (match ended.1 with
        | .ok verdict => .ok (.ok verdict)
        | .error (.generation cause) => .ok (.error cause)
        | .error fault => .error fault, ended.2) := by
  rw [iterate, bind_apply, caught_apply, spinner_apply]
  dsimp only
  rw [round, startText]
  dsimp only
  generalize (evaluate iteration _).1 = outcome
  rcases outcome with fault | verdict
  · cases fault <;> rfl
  · rfl

/-- A round that passes is followed by the further ones. -/
theorem iterations_of_passes {done further many : Nat}
    (passes : Passes (outcome evaluate count start done)) :
    iterations evaluate output count (further + 1) (done + 1) many (standing evaluate count start done) =
      iterations evaluate output count further (done + 2)
        (many + if isAbandoned (outcome evaluate count start done) then 1 else 0)
        (standing evaluate count start (done + 1)) := by
  have next : standing evaluate count start (done + 1) =
      recorded (done + 1) (outcome evaluate count start done) (left evaluate count start done) := rfl
  have ended : round evaluate count (done + 1) (standing evaluate count start done) =
      (outcome evaluate count start done, left evaluate count start done) := rfl
  rw [iterations, bind_apply, iterate_apply, ended, next]
  generalize outcome evaluate count start done = outcome at passes
  rcases outcome with fault | verdict
  · cases fault with
    | generation cause => rfl
    | _ => exact passes.elim
  · cases verdict with
    | consistent => rfl
    | inconsistent finding => exact passes.elim

/-- How many are abandoned in one round more. -/
theorem abandoned_succ (done : Nat) : abandoned evaluate count start (done + 1) =
    abandoned evaluate count start done +
      if isAbandoned (outcome evaluate count start done) then 1 else 0 := by
  rw [abandoned, abandoned, List.range_succ, List.countP_append, List.countP_singleton]

/-- As long as the rounds pass the loop goes on. -/
theorem iterations_of_passesUpTo {done total : Nat} (passed : PassesUpTo evaluate count start done)
    (within : done ≤ total) :
    iterations evaluate output count total 1 0 start =
      iterations evaluate output count (total - done) (done + 1) (abandoned evaluate count start done)
        (standing evaluate count start done) := by
  induction done with
  | zero => rfl
  | succ done hypothesis =>
    have earlier := hypothesis (fun round before => passed round (by omega)) (by omega)
    obtain ⟨further, left⟩ : ∃ further, total - done = further + 1 := ⟨total - done - 1, by omega⟩
    rw [earlier, left, iterations_of_passes (passed done (Nat.lt_succ_self done)), abandoned_succ]
    congr 1
    omega

/-- What is shown when all rounds have passed. -/
def successText (count : Value) (many : Nat) (seed : Value) : String :=
  Display.green ++ ("✓ " ++ s!"{count.plain} iterations consistent ({many} abandoned, seed {seed.plain})") ++
    Display.reset ++ "\n"

theorem iterations_none (iteration many : Nat) (bench : Bench) :
    iterations evaluate output count 0 iteration many bench =
      (.ok 0, bench.showing (successText count many bench.randomness.seed)) := rfl

/-- A finding ends the loop. -/
theorem iterations_of_finding {done further many : Nat} {finding : Finding}
    (found : outcome evaluate count start done = .ok (.inconsistent finding)) :
    iterations evaluate output count (further + 1) (done + 1) many (standing evaluate count start done) =
      (do conclude output finding; return 1 : Task Int) (left evaluate count start done) := by
  have ended : round evaluate count (done + 1) (standing evaluate count start done) =
      (outcome evaluate count start done, left evaluate count start done) := rfl
  rw [iterations, bind_apply, iterate_apply, ended, found]

/-- So does a fault other than that of a generation. -/
theorem iterations_of_fault {done further many : Nat} {fault : Fault}
    (failed : outcome evaluate count start done = .error fault)
    (other : ∀ cause, fault ≠ .generation cause) :
    iterations evaluate output count (further + 1) (done + 1) many (standing evaluate count start done) =
      (.error fault, left evaluate count start done) := by
  have ended : round evaluate count (done + 1) (standing evaluate count start done) =
      (outcome evaluate count start done, left evaluate count start done) := rfl
  rw [iterations, bind_apply, iterate_apply, ended, failed]
  cases fault with
  | generation cause => exact absurd rfl (other cause)
  | _ => rfl

variable {number : Int}

/-- The loop is made of as many iterations as the settings ask for. -/
theorem loop_eq (whole : start.settings.iterations = .integer number) :
    loop evaluate output start = iterations evaluate output (.integer number) number.toNat 1 0 start := by
  have read : (get : Task Bench) start = (.ok start, start) := rfl
  have counted : ((Value.integer number).successor >>= Value.count) = .ok (number + 1) := rfl
  rw [loop, bind_apply, read]
  dsimp only
  rw [whole, counted, bind_apply]
  show iterations evaluate output (.integer number) (number + 1 - 1).toNat 1 0 start = _
  rw [show number + 1 - 1 = number by omega]

/-! ## What the loop comes to -/

/-- A record of calls: an evaluation adds its iteration, and what is shown, logged or written to files does
not matter. -/
structure Tallies (evaluate : Nat → Task Verdict) (calls : Bench → List Nat) : Prop where
  /-- An evaluation adds its iteration. -/
  adds : ∀ iteration bench, calls (evaluate iteration bench).2 = calls bench ++ [iteration]
  /-- The console, the journal and the files do not matter. -/
  aside : ∀ (bench : Bench) console journal disk,
    calls { bench with console, journal, disk } = calls bench

namespace Tallies

variable {calls : Bench → List Nat} (tallies : Tallies evaluate calls)

include tallies

/-- The round after so many ones is called once, after those. -/
theorem calls_left (done : Nat) : calls (left evaluate count start done) =
    calls (standing evaluate count start done) ++ [done + 1] := by
  have stopped (bench : Bench) (text : String) : calls (bench.showing text) = calls bench :=
    tallies.aside bench _ bench.journal bench.disk
  rw [left, stopped, tallies.adds, called, stopped]

/-- In so many rounds evaluations are called for as many iterations, each once and in order. -/
theorem calls_standing (done : Nat) :
    calls (standing evaluate count start done) = calls start ++ List.range' 1 done := by
  induction done with
  | zero => exact (List.append_nil _).symm
  | succ done hypothesis =>
    have noted (outcome : Except Fault Verdict) (bench : Bench) :
        calls (recorded (done + 1) outcome bench) = calls bench := by
      unfold recorded
      split
      · exact tallies.aside bench bench.console _ bench.disk
      · rfl
    have next : standing evaluate count start (done + 1) =
        recorded (done + 1) (outcome evaluate count start done) (left evaluate count start done) := rfl
    rw [next, noted, tallies.calls_left, hypothesis, List.append_assoc, List.range'_concat, Nat.one_mul,
      Nat.add_comm 1 done]

end Tallies

/-- What spinners show in so many rounds whose evaluations show nothing. -/
def spinnerTexts (count : Value) (done : Nat) : List String :=
  (List.range done).flatMap fun earlier => [startText count (earlier + 1), stopText]

section

variable (silent : ∀ iteration bench, (evaluate iteration bench).2.console = bench.console)

include silent

/-- A round shows its spinner. -/
theorem console_round (done : Nat) : (left evaluate count start done).console.toList =
    (standing evaluate count start done).console.toList ++ [startText count (done + 1), stopText] := by
  show ((evaluate _ _).2.console.push stopText).toList = _
  rw [silent, called, Bench.showing, History.toList_push, History.toList_push, List.append_assoc]
  rfl

theorem console_standing (done : Nat) : (standing evaluate count start done).console.toList =
    start.console.toList ++ spinnerTexts count done := by
  induction done with
  | zero => exact (List.append_nil _).symm
  | succ done hypothesis =>
    have next : (standing evaluate count start (done + 1)).console =
        (left evaluate count start done).console := by
      show (recorded (done + 1) _ (left evaluate count start done)).console = _
      unfold recorded
      split <;> rfl
    rw [next, console_round silent, hypothesis, spinnerTexts, spinnerTexts, List.range_succ,
      List.flatMap_append, List.append_assoc, List.flatMap_singleton]

/-- Each spinner that is started is stopped. -/
theorem console_left (done : Nat) : (left evaluate count start done).console.toList =
    start.console.toList ++ spinnerTexts count (done + 1) := by
  rw [console_round silent, console_standing silent, spinnerTexts, spinnerTexts, List.range_succ,
    List.flatMap_append, List.append_assoc, List.flatMap_singleton]

end

/-- The rounds all pass, or there is a first one that does not. -/
theorem passesUpTo_or (evaluate : Nat → Task Verdict) (count : Value) (start : Bench) (total : Nat) :
    PassesUpTo evaluate count start total ∨
    ∃ done < total, PassesUpTo evaluate count start done ∧ ¬Passes (outcome evaluate count start done) := by
  induction total with
  | zero => exact .inl fun _ never => absurd never (Nat.not_lt_zero _)
  | succ total hypothesis =>
    rcases hypothesis with passed | ⟨done, before, first⟩
    · by_cases passes : Passes (outcome evaluate count start total)
      · refine .inl fun earlier before => ?_
        rcases Nat.lt_succ_iff_lt_or_eq.1 before with earlier | rfl
        · exact passed _ earlier
        · exact passes
      · exact .inr ⟨total, Nat.lt_succ_self total, passed, passes⟩
    · exact .inr ⟨done, Nat.lt_succ_of_lt before, first⟩

/-- How the loop ends after a round that does not pass: a finding is shown and reported, a fault is passed
on. -/
def ending (output : Value) : Except Fault Verdict → Bench → Except Fault Int × Bench
  | .ok (.inconsistent finding), bench => (do conclude output finding; return 1 : Task Int) bench
  | .error fault, bench => (.error fault, bench)
  | .ok .consistent, bench => (.ok 0, bench)

/-- One is returned for a finding that was shown and reported. -/
theorem conclude_return (finding : Finding) (bench : Bench) :
    (do conclude output finding; return 1 : Task Int) bench =
      ((conclude output finding bench).1.map fun _ => 1, (conclude output finding bench).2) := by
  rw [bind_apply]
  generalize conclude output finding bench = concluded
  obtain ⟨concluded, after⟩ := concluded
  cases concluded <;> rfl

/-- A round that does not pass does not end in zero. -/
theorem ending_ok {result : Except Fault Verdict} (stops : ¬Passes result) {code : Int} :
    (ending output result bench).1 = .ok code ↔ code = 1 ∧ ∃ finding, result = .ok (.inconsistent finding) ∧
      (conclude output finding bench).1 = .ok () := by
  rcases result with fault | verdict
  · simp [ending]
  · cases verdict with
    | consistent => exact absurd trivial stops
    | inconsistent finding =>
      rw [ending, conclude_return]
      simp only [Except.ok.injEq, Verdict.inconsistent.injEq, exists_eq_left']
      cases (conclude output finding bench).1 <;> simp [Except.map, eq_comm]

theorem ending_error {result : Except Fault Verdict} (stops : ¬Passes result) {fault : Fault} :
    (ending output result bench).1 = .error fault ↔ result = .error fault ∨
      ∃ finding, result = .ok (.inconsistent finding) ∧ (conclude output finding bench).1 = .error fault := by
  rcases result with other | verdict
  · simp [ending]
  · cases verdict with
    | consistent => exact absurd trivial stops
    | inconsistent finding =>
      rw [ending, conclude_return]
      simp only [reduceCtorEq, false_or, Except.ok.injEq, Verdict.inconsistent.injEq, exists_eq_left']
      cases (conclude output finding bench).1 <;> simp [Except.map]

/-- What the loop comes to, exactly, with the number of iterations that the settings ask for. -/
structure Follows (evaluate : Nat → Task Verdict) (output : Value) (start : Bench) (number : Int) :
    Prop where
  /-- It returns zero exactly if all rounds pass. -/
  zero : (loop evaluate output start).1 = .ok 0 ↔
    PassesUpTo evaluate (.integer number) start number.toNat
  /-- It returns one exactly if a round has a finding, those before it pass, and the finding is shown and,
  if a file is named, reported. -/
  one : (loop evaluate output start).1 = .ok 1 ↔ ∃ done < number.toNat,
    PassesUpTo evaluate (.integer number) start done ∧
      ∃ finding, outcome evaluate (.integer number) start done = .ok (.inconsistent finding) ∧
        (conclude output finding (left evaluate (.integer number) start done)).1 = .ok ()
  /-- It ends in a fault exactly if a round does, which is not that of a generation, or if the finding of a
  round cannot be shown or reported, and those before it pass. -/
  fault : ∀ fault, (loop evaluate output start).1 = .error fault ↔ ∃ done < number.toNat,
    PassesUpTo evaluate (.integer number) start done ∧
      ((∀ cause, fault ≠ .generation cause) ∧
          outcome evaluate (.integer number) start done = .error fault ∨
        ∃ finding, outcome evaluate (.integer number) start done = .ok (.inconsistent finding) ∧
          (conclude output finding (left evaluate (.integer number) start done)).1 = .error fault)
  /-- If all rounds pass it goes through them, and shows how many were abandoned. -/
  passed : PassesUpTo evaluate (.integer number) start number.toNat →
    loop evaluate output start = (.ok 0, (standing evaluate (.integer number) start number.toNat).showing
      (successText (.integer number) (abandoned evaluate (.integer number) start number.toNat)
        (standing evaluate (.integer number) start number.toNat).randomness.seed))
  /-- Else it goes through those up to the first one that does not pass. -/
  stopped : ∀ done < number.toNat, PassesUpTo evaluate (.integer number) start done →
    ¬Passes (outcome evaluate (.integer number) start done) →
      loop evaluate output start = ending output (outcome evaluate (.integer number) start done)
        (left evaluate (.integer number) start done)

section

variable (whole : start.settings.iterations = .integer number)

include whole

/-- If all rounds pass the loop goes through them, and shows how many were abandoned. -/
theorem loop_of_passesUpTo (all : PassesUpTo evaluate (.integer number) start number.toNat) :
    loop evaluate output start = (.ok 0,
      (standing evaluate (.integer number) start number.toNat).showing
        (successText (.integer number) (abandoned evaluate (.integer number) start number.toNat)
          (standing evaluate (.integer number) start number.toNat).randomness.seed)) := by
  rw [loop_eq whole, iterations_of_passesUpTo all (Nat.le_refl _), Nat.sub_self, iterations_none]

/-- Else it ends as the first round does that does not pass. -/
theorem loop_of_stops {done : Nat} (before : done < number.toNat)
    (earlier : PassesUpTo evaluate (.integer number) start done)
    (stops : ¬Passes (outcome evaluate (.integer number) start done)) :
    loop evaluate output start = ending output (outcome evaluate (.integer number) start done)
      (left evaluate (.integer number) start done) := by
  obtain ⟨further, more⟩ : ∃ further, number.toNat - done = further + 1 :=
    ⟨number.toNat - done - 1, by omega⟩
  rw [loop_eq whole, iterations_of_passesUpTo earlier (Nat.le_of_lt before), more]
  cases ended : outcome evaluate (.integer number) start done with
  | error fault =>
    refine iterations_of_fault ended fun cause same => stops ?_
    rw [ended, same]
    trivial
  | ok verdict =>
    cases verdict with
    | consistent => exact absurd (by rw [ended]; trivial) stops
    | inconsistent finding => exact iterations_of_finding ended

/-- What the loop ends in is led back to the round that it ends with. -/
theorem exists_stop {result : Except Fault Int} (ended : (loop evaluate output start).1 = result)
    (other : result ≠ .ok 0) : ∃ done < number.toNat, PassesUpTo evaluate (.integer number) start done ∧
      ¬Passes (outcome evaluate (.integer number) start done) ∧
        (ending output (outcome evaluate (.integer number) start done)
          (left evaluate (.integer number) start done)).1 = result := by
  rcases passesUpTo_or evaluate (.integer number) start number.toNat with
    all | ⟨done, before, earlier, stops⟩
  · rw [loop_of_passesUpTo whole all] at ended
    exact absurd ended.symm other
  · rw [loop_of_stops whole before earlier stops] at ended
    exact ⟨done, before, earlier, stops, ended⟩

/-- The loop follows the rounds. -/
theorem follows : Follows evaluate output start number := by
  refine ⟨⟨fun ended => ?_, fun all => by rw [loop_of_passesUpTo whole all]⟩, ⟨fun ended => ?_, ?_⟩,
    fun fault => ⟨fun ended => ?_, ?_⟩, loop_of_passesUpTo whole, fun done => loop_of_stops whole⟩
  · rcases passesUpTo_or evaluate (.integer number) start number.toNat with
      all | ⟨done, before, earlier, stops⟩
    · exact all
    · rw [loop_of_stops whole before earlier stops, ending_ok stops] at ended
      exact absurd ended.1 (by decide)
  · obtain ⟨done, before, earlier, stops, ended⟩ := exists_stop whole ended (by simp)
    exact ⟨done, before, earlier, ((ending_ok stops).1 ended).2⟩
  · rintro ⟨done, before, earlier, finding, found, shown⟩
    have stops : ¬Passes (outcome evaluate (.integer number) start done) := by rw [found]; exact id
    rw [loop_of_stops whole before earlier stops, ending_ok stops]
    exact ⟨rfl, finding, found, shown⟩
  · obtain ⟨done, before, earlier, stops, ended⟩ := exists_stop whole ended (by simp)
    refine ⟨done, before, earlier, ((ending_error stops).1 ended).imp (fun failed => ⟨?_, failed⟩) id⟩
    rintro cause rfl
    exact stops (by rw [failed]; trivial)
  · rintro ⟨done, before, earlier, failure⟩
    have stops : ¬Passes (outcome evaluate (.integer number) start done) := by
      rcases failure with ⟨other, failed⟩ | ⟨finding, found, -⟩
      · rw [failed]
        cases fault with
        | generation cause => exact absurd rfl (other cause)
        | _ => exact id
      · rw [found]
        exact id
    rw [loop_of_stops whole before earlier stops, ending_error stops]
    exact failure.imp And.right id

end

end

end Campaign

end SerialCheck

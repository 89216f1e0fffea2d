import SerialCheck.Proofs.Interleaved.Breaks

/-!
# The clock of an interleaved run

The clock of a run stands still or moves to a time that the run has asked for: when something that was
sent is finished, or when the wait for it is over (`Step.clock`). So it stays among times that are closed
under what the run asks for (`Does.keepsTime`).
-/
namespace SerialCheck

namespace Doing

/-- The times that are asked for are among the given ones, as far as they are to come. -/
structure StaysIn (shows : Number → Prop) (doing : Doing) : Prop where
  /-- When what is sent is finished. -/
  finish : ∀ delay finish, doing.delay? = some delay →
    Value.addNumbers doing.bench.now delay = .ok finish → finish.le doing.bench.now = false →
      shows finish
  /-- When the wait for it is over. -/
  limit : ∀ limit, doing.timeout.addTo doing.bench.now = .ok limit → shows limit

end Doing

namespace Run

variable {batch : Batch} {start : Bench} {station later : Station} {doings more last : List Doing}
  {shows : Number → Prop}

/-- What is awaited until it is finished moves the clock to that time unless it is over, and what is not
moves the clock to the end of the wait. -/
theorem await_clock {finish : Number} {timeout : Value} {bench after : Bench} {finished : Bool}
    (returned : (await finish timeout).Returns bench finished after) :
    finished = true ∧ (after.now = bench.now ∨ finish.le bench.now = false ∧ after.now = finish) ∨
      finished = false ∧ ∃ limit, timeout.addTo bench.now = .ok limit ∧ limit.lt finish = true ∧
        after.now = limit := by
  unfold await at returned
  rw [Task.returns_get_bind] at returned
  by_cases there : finish.le bench.now = true
  · rw [if_pos there] at returned
    obtain ⟨rfl, rfl⟩ := Task.returns_pure.1 returned
    exact .inl ⟨rfl, .inl rfl⟩
  · rw [if_neg there] at returned
    have ahead : finish.le bench.now = false := Bool.eq_false_iff.2 there
    split at returned
    · simp only [Task.returns_bind, setTime_returns, Task.returns_pure] at returned
      obtain ⟨_, _, rfl, rfl, rfl⟩ := returned
      exact .inl ⟨rfl, .inr ⟨ahead, rfl⟩⟩
    · obtain ⟨limit, between, found, rest⟩ := Task.returns_bind.1 returned
      obtain ⟨added, rfl⟩ := deadline_returns found
      unfold awaitUntil at rest
      split at rest
      next passed =>
        simp only [Task.returns_bind, setTime_returns, Task.returns_pure] at rest
        obtain ⟨_, _, rfl, rfl, rfl⟩ := rest
        exact .inr ⟨rfl, limit, added, passed, rfl⟩
      next =>
        simp only [Task.returns_bind, setTime_returns, Task.returns_pure] at rest
        obtain ⟨_, _, rfl, rfl, rfl⟩ := rest
        exact .inl ⟨rfl, .inr ⟨ahead, rfl⟩⟩

/-- A rollback moves the clock to the time at which it is finished, unless that is over. -/
theorem rollbackInTime_clock {session : Session} {bench after : Bench} {result : Unit}
    (returned : (rollbackInTime session).Returns bench result after) :
    after.now = bench.now ∨
      ∃ finish, Value.addNumbers bench.now (rollbackReply session bench).delay = .ok finish ∧
        finish.le bench.now = false ∧ after.now = finish := by
  obtain ⟨_, sent, finish, agrees, added, awaited⟩ := rollbackInTime_cases returned
  have now : sent.now = bench.now := agrees.now
  rcases await_clock awaited with ⟨_, moved⟩ | ⟨impossible, _⟩
  · rw [now] at moved
    exact moved.imp id fun ⟨ahead, there⟩ => ⟨finish, added, ahead, there⟩
  · cases impossible

/-- Recording an outcome moves the clock only by the rollback that follows a lock conflict. -/
theorem record_clock {transaction : OpenTransaction} {statement : Statement} {outcome : Outcome}
    {blocked : Bool} {progress result : Progress} {bench after : Bench}
    (returned : (record transaction statement outcome blocked progress).Returns bench result
      after) :
    after.now = bench.now ∨ outcome.conflicts = true ∧
      ∃ finish, Value.addNumbers bench.now (rollbackReply transaction.session bench).delay =
          .ok finish ∧ finish.le bench.now = false ∧ after.now = finish := by
  obtain ⟨_, ⟨_, agrees⟩ | ⟨conflict, logged, agrees, rolled⟩⟩ := record_cases returned
  · exact .inl agrees.now
  · have moved := rollbackInTime_clock rolled
    unfold rollbackReply at moved
    rw [agrees.now, agrees.scene] at moved
    exact moved.imp id fun finished => ⟨conflict, finished⟩

/-- A statement that is sent is awaited until it is finished, or until it is late. -/
theorem sendStatement_awaits {sending : Sending} {progress result : Progress} {after : Bench}
    (returned : (sendStatement sending.transaction sending.statement progress).Returns sending.bench
      result after) :
    Value.addNumbers sending.bench.now sending.reply.delay = .ok sending.finish ∧
      (await sending.finish sending.bench.settings.blockTimeout).Returns sending.after
        (!sending.isLate) sending.waited := by
  simp only [sendStatement, Task.returns_bind, Bench.send_returns, finishTime_returns,
    Task.returns_get] at returned
  obtain ⟨_, _, ⟨rfl, rfl⟩, finish, _, ⟨added, rfl⟩, _, _, ⟨rfl, rfl⟩, finished, waited, awaited,
    _⟩ := returned
  have sum : Value.addNumbers sending.bench.now sending.reply.delay = .ok finish := added
  obtain ⟨ended, late, waits, _⟩ := await_sending sum awaited
  rw [ended] at awaited sum
  rw [late, Bool.not_not, waits]
  exact ⟨sum, awaited⟩

/-- The first of several parked statements to be finished is one of them. -/
theorem exists_firstFinish (first : Parked) (others : List Parked) :
    ∃ parked ∈ first :: others, firstFinish first others = parked.finish := by
  have fold : ∀ earliest : Number, others.foldl (fun earliest parked =>
      earliest.earliest parked.finish) earliest = earliest ∨
        ∃ parked ∈ others, others.foldl (fun earliest parked =>
          earliest.earliest parked.finish) earliest = parked.finish := by
    induction others with
    | nil => exact fun _ => .inl rfl
    | cons other rest hypothesis =>
      intro earliest
      rw [List.foldl_cons]
      rcases hypothesis (earliest.earliest other.finish) with same | ⟨parked, inside, same⟩
      · by_cases earlier : other.finish.lt earliest = true
        · exact .inr ⟨other, List.mem_cons_self, same.trans (if_pos earlier)⟩
        · exact .inl (same.trans (if_neg earlier))
      · exact .inr ⟨parked, List.mem_cons_of_mem _ inside, same⟩
  rcases fold first.finish with same | ⟨parked, inside, same⟩
  · exact ⟨first, List.mem_cons_self, same⟩
  · exact ⟨parked, List.mem_cons_of_mem _ inside, same⟩

/-- The clock of a sent statement that was awaited is among times that are closed under what was asked
for. -/
theorem Sending.shows_waited {sending : Sending} (begun : shows sending.bench.now)
    (stays : (Doing.sends sending).StaysIn shows) : shows sending.waited.now := by
  have finishes : sending.finish.le sending.bench.now = false → shows sending.finish := by
    intro ahead
    cases added : Value.addNumbers sending.bench.now sending.reply.delay with
    | error cause =>
      have same : sending.finish = sending.bench.now := by rw [Sending.finish, added]; rfl
      exact same ▸ begun
    | ok finish =>
      have same : sending.finish = finish := by rw [Sending.finish, added]; rfl
      exact stays.finish _ _ rfl (same ▸ added) ahead
  rcases Task.returns_or_fails (await sending.finish sending.bench.settings.blockTimeout)
    sending.after with ⟨finished, waited, returned⟩ | ⟨fault, waited, failed⟩
  · have same : sending.waited = waited := congrArg Prod.snd returned
    rw [same]
    rcases await_clock returned with ⟨_, there | ⟨ahead, there⟩⟩ | ⟨_, limit, limited, _, there⟩
    · exact there ▸ begun
    · exact there ▸ finishes ahead
    · exact there ▸ stays.limit limit limited
  · have same : sending.waited = waited := congrArg Prod.snd failed
    rw [same, (await_fails failed).2]
    exact begun

/-- So are the clocks of all that is done on sending a statement. -/
theorem shows_sending {sending : Sending} (begun : shows sending.bench.now)
    (stays : (Doing.sends sending).StaysIn shows) :
    ∀ doing ∈ Doing.sending sending, shows doing.bench.now := by
  intro doing done
  rcases Doing.eq_of_mem_sending done with rfl | ⟨_, _, rfl⟩
  · exact begun
  · exact Sending.shows_waited begun stays

/-- The clock stays among times that are closed under what the run asks for. -/
theorem Step.clock (shows : Number → Prop) (step : Step batch station more later)
    (stays : ∀ doing ∈ more, shows doing.bench.now → doing.StaysIn shows)
    (parked : ∀ parked ∈ station.moment.progress.parked,
      station.moment.bench.now.lt parked.finish = true → shows parked.finish)
    (now : shows station.moment.bench.now) : shows later.moment.bench.now := by
  have recorded : ∀ {transaction statement outcome blocked progress result} {bench after : Bench},
      (record transaction statement outcome blocked progress).Returns bench result after →
        (∀ doing ∈ Doing.recording transaction outcome bench, doing ∈ more) → shows bench.now →
          shows after.now := by
    intro transaction statement outcome blocked progress result bench after returned done there
    rcases record_clock returned with same | ⟨conflict, finish, added, ahead, same⟩
    · exact same ▸ there
    · have aborts : Doing.aborts transaction bench ∈ more := by
        refine done _ ?_
        rw [Doing.recording, if_pos conflict]
        exact List.mem_singleton.2 rfl
      exact same ▸ (stays _ aborts there).finish _ finish rfl added ahead
  cases step with
  | passes => exact now
  | settles moment parked rest transaction outcome progress bench finished found answered returned =>
    exact recorded returned (fun _ done => done) now
  | sends moment first others sending progress bench runnable picked next sent =>
    have begun : shows sending.bench.now := (pick_returns picked).2.now ▸ now
    have sends := stays (.sends sending) List.mem_cons_self begun
    have waited : shows sending.waited.now := Sending.shows_waited begun sends
    have went := (sendStatement_waits sent).2
    by_cases late : sending.isLate = true
    · rw [if_pos late] at went
      show shows bench.now
      rw [went.1.now]
      exact waited
    · rw [if_neg late] at went
      refine recorded went.2.2 (fun doing done => ?_) waited
      rw [Doing.sending, if_neg late]
      exact List.mem_cons_of_mem _ done
  | waits moment first others bench still waiting waited =>
    obtain ⟨limit, _, timely, rfl⟩ := waitForParked_returns_iff.1 waited
    simp only [waitsInVain, Bool.or_eq_false_iff] at timely
    show shows (waitedUntil first others limit moment.bench.now)
    rw [waitedUntil, if_neg (Bool.eq_false_iff.1 timely.1), Number.latest]
    split
    next ahead =>
      obtain ⟨last, inside, same⟩ := exists_firstFinish first others
      rw [same] at ahead ⊢
      exact parked last (waiting ▸ inside) ahead
    next => exact now

/-- So are the clocks of all that is done at a step. -/
theorem Step.keepsTime (step : Step batch station more later)
    (stays : ∀ doing ∈ more, shows doing.bench.now → doing.StaysIn shows)
    (now : shows station.moment.bench.now) : ∀ doing ∈ more, shows doing.bench.now := by
  cases step with
  | passes => exact fun _ impossible => by cases impossible
  | settles moment parked rest transaction outcome progress bench finished found answered returned =>
    intro doing done
    obtain ⟨rfl, _⟩ := Doing.eq_aborts_of_mem done
    exact now
  | sends moment first others sending progress bench runnable picked next sent =>
    have begun : shows sending.bench.now := (pick_returns picked).2.now ▸ now
    exact shows_sending begun (stays (.sends sending) List.mem_cons_self begun)
  | waits moment first others bench still waiting waited =>
    intro doing done
    rw [List.mem_singleton.1 done]
    exact now

/-- And of all that is done at the end. -/
theorem Ends.keepsTime {result : Except Fault Trace} {after : Bench}
    (ends : Ends batch station last result after)
    (stays : ∀ doing ∈ last, shows doing.bench.now → doing.StaysIn shows)
    (now : shows station.moment.bench.now) : ∀ doing ∈ last, shows doing.bench.now := by
  cases ends with
  | returns => exact fun _ impossible => by cases impossible
  | lost => exact fun _ impossible => by cases impossible
  | settles moment parked rest transaction outcome fault bench finished found answered failed =>
    intro doing done
    obtain ⟨rfl, _⟩ := Doing.eq_aborts_of_mem done
    exact now
  | sends moment first others sending fault bench runnable picked next failed =>
    have begun : shows sending.bench.now := (pick_returns picked).2.now ▸ now
    exact shows_sending begun (stays (.sends sending) List.mem_cons_self begun)
  | waits moment first others fault bench still waiting failed =>
    intro doing done
    rw [List.mem_singleton.1 done]
    exact now

/-- A late statement is not finished when it is sent. -/
theorem finish_of_isLate {sending : Sending} (late : sending.isLate = true) :
    Value.addNumbers sending.bench.now sending.reply.delay = .ok sending.finish ∧
      sending.finish.le sending.bench.now = false := by
  unfold Sending.isLate at late
  unfold Sending.finish
  cases added : Value.addNumbers sending.bench.now sending.reply.delay with
  | error cause =>
    rw [added] at late
    cases late
  | ok finish =>
    rw [added] at late
    simp only [Except.toOption, Option.any_some, Option.getD_some] at late ⊢
    refine ⟨trivial, ?_⟩
    unfold outlasts at late
    split at late
    · cases late
    · simp only [Bool.and_eq_true, Bool.not_eq_true'] at late
      exact late.1

/-- On a path the clock stays among times that are closed under what the run asks for. -/
theorem Goes.keepsTime (goes : Goes batch start doings station) (numbered : batch.Numbered)
    (stays : ∀ doing ∈ doings, shows doing.bench.now → doing.StaysIn shows) (now : shows start.now) :
    shows station.moment.bench.now ∧ ∀ doing ∈ doings, shows doing.bench.now := by
  induction goes with
  | first => exact ⟨now, fun _ impossible => by cases impossible⟩
  | @next doings more station later goes step hypothesis =>
    obtain ⟨there, done⟩ := hypothesis fun doing before => stays doing (List.mem_append_left _ before)
    have new : ∀ doing ∈ more, shows doing.bench.now → doing.StaysIn shows :=
      fun doing inside => stays doing (List.mem_append_right _ inside)
    have finishes : ∀ parked ∈ station.moment.progress.parked, shows parked.finish := by
      intro parked waiting
      obtain ⟨sending, sent, late, rfl⟩ := (goes.sound numbered).exists_sending numbered waiting
      have sends := (goes.mem_sendings numbered).1 sent
      obtain ⟨added, ahead⟩ := finish_of_isLate late
      exact (stays _ (List.mem_append_left _ sends) (done _ sends)).finish _ _ rfl added ahead
    refine ⟨step.clock shows new (fun parked waiting _ => finishes parked waiting) there, ?_⟩
    intro doing inside
    exact (List.mem_append.1 inside).elim (done doing) (step.keepsTime new there doing)

/-- So do the clocks of all that a run does. -/
theorem Does.keepsTime (shows : Number → Prop) {doing : Doing} (does : Does batch start doing)
    (numbered : batch.Numbered)
    (stays : ∀ doing, Does batch start doing → shows doing.bench.now → doing.StaysIn shows)
    (now : shows start.now) : shows doing.bench.now := by
  obtain ⟨doings, station, goes, before | ⟨last, result, after, ends, done⟩⟩ := does
  · exact (goes.keepsTime numbered (fun _ done => stays _ (goes.does done)) now).2 doing before
  · have there := (goes.keepsTime numbered (fun _ done => stays _ (goes.does done)) now).1
    exact ends.keepsTime (fun _ done => stays _ (ends.does goes done)) there doing done

end Run

end SerialCheck

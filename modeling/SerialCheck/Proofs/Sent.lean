import SerialCheck.Proofs.Interleaved.Bookkeeping
import SerialCheck.Proofs.Preserved
import SerialCheck.Proofs.Sent.Chronicle
import SerialCheck.Proofs.Sent.Serial

/-!
# What sessions are sent is what traces say

Whatever the server does, a run that returns has sent over the session of each transaction the texts of
its executed results, each once and in order, and then a rollback if the trace says that it was aborted,
and nothing else. In an interleaved run no text is sent over a session while an earlier statement of
that session is unfinished by the clock (`Run.run_texts`).
-/
namespace SerialCheck

/-- The transactions of a batch have sessions of their own. -/
structure Bench.Seats (bench : Bench) (batch : Batch) : Prop where
  /-- The server knows their connections. -/
  known : ∀ transaction ∈ batch, ∀ number, transaction.session.connection = some number →
    number ≤ bench.server.connections.length
  /-- None of them is the session for setup statements. -/
  keeps : ∀ transaction ∈ batch, bench.KeepsFrom transaction.session
  /-- No two of them have one connection. -/
  distinct : ∀ left ∈ batch, ∀ right ∈ batch,
    left.session.connection = right.session.connection → left = right

/-- Choosing among the members of a list where they are met is choosing among those that are left. -/
theorem flatMap_toList_filter {α β : Type} (list : List α) (keep : α → Bool) (choose : α → Option β) :
    (list.flatMap fun member => if keep member then (choose member).toList else []) =
      (list.filter keep).filterMap choose := by
  induction list with
  | nil => rfl
  | cons head tail hypothesis =>
    rw [List.flatMap_cons, hypothesis, List.filter_cons]
    by_cases kept : keep head = true
    · cases chosen : choose head <;> simp [kept, chosen]
    · simp [kept]

/-- What is below one quantity is below those that it is not above. -/
theorem Quantity.lt_trans_le {first second third : Quantity} (below : first.lt second = true)
    (within : second.le third = true) : first.lt third = true := by
  cases first <;> cases second <;> cases third <;> simp_all only [lt, le, decide_eq_true_eq] <;>
    first
    | exact lt_of_lt_of_le below within
    | simp_all

/-- A number that is no decimal one is an exact quantity. -/
theorem Number.exists_quantity {number : Number} (exact : number.isDecimal = false) :
    ∃ quantity, number.quantity? = some quantity := by
  cases number with
  | whole value => exact ⟨_, rfl⟩
  | binary value => exact ⟨_, rfl⟩
  | decimal value => cases exact

/-- So it is with numbers that are no decimal ones. -/
theorem Number.lt_trans_le {first second third : Number} (binary₁ : first.isDecimal = false)
    (binary₂ : second.isDecimal = false) (binary₃ : third.isDecimal = false)
    (below : first.lt second = true) (within : second.le third = true) : first.lt third = true := by
  obtain ⟨_, read₁⟩ := exists_quantity binary₁
  obtain ⟨_, read₂⟩ := exists_quantity binary₂
  obtain ⟨_, read₃⟩ := exists_quantity binary₃
  simp only [lt, le, read₁, read₂, read₃] at below within ⊢
  exact Quantity.lt_trans_le below within

/-- A statement whose outcome was taken on one bench is finished on another one: it was by the clock of the
first, and so it is by the clock of the second unless that was put back in between. The clock shows no
decimal numbers. -/
structure Sending.Over (sending : Sending) (taken bench : Bench) : Prop where
  /-- It was finished when it was taken. -/
  finished : sending.FinishedBy taken
  /-- Its finish does not lie in the future. -/
  past : taken.now.isDecimal = false → bench.now.isDecimal = false → sending.finish.isDecimal = false →
    bench.now.lt taken.now = false → bench.now.lt sending.finish = false

/-- What was finished when it was taken is so on every other bench. -/
theorem Sending.FinishedBy.over {sending : Sending} {taken : Bench} (finished : sending.FinishedBy taken)
    (bench : Bench) : sending.Over taken bench where
  finished := finished
  past := by
    intro before now ending forward
    rcases finished with reached | moved
    · by_contra future
      have back := Number.lt_trans_le now ending before (by simpa using future) reached
      rw [forward] at back
      cases back
    · exact moved ▸ forward

/-- Whenever a text is sent, each statement that was sent before has been taken, and it is finished. -/
def Awaits (history : List Incident) : Prop :=
  ∀ earlier incident later, history = earlier ++ incident :: later → incident.text?.isSome →
    ∀ sending, .sent sending ∈ earlier →
      ∃ bench, .taken sending bench ∈ earlier ∧ sending.Over bench incident.bench

namespace Awaits

variable {first second : List Incident} {sending : Sending} {bench : Bench}

/-- After a history in which all statements have been taken another one can follow. -/
theorem append (awaits : Awaits first)
    (taken : ∀ sending, .sent sending ∈ first →
      ∃ bench, .taken sending bench ∈ first ∧ sending.FinishedBy bench)
    (further : Awaits second) : Awaits (first ++ second) := by
  intro earlier incident later split speaks sending sent
  rcases List.append_eq_append_iff.1 split with ⟨rest, rfl, told⟩ | ⟨rest, told, ended⟩
  · rcases List.mem_append.1 sent with before | behind
    · obtain ⟨bench, member, finished⟩ := taken sending before
      exact ⟨bench, List.mem_append_left _ member, finished.over _⟩
    · obtain ⟨bench, member, finished⟩ := further rest incident later told speaks sending behind
      exact ⟨bench, List.mem_append_right _ member, finished⟩
  · cases rest with
    | nil =>
      rw [List.append_nil] at told
      subst told
      obtain ⟨bench, member, finished⟩ := taken sending sent
      exact ⟨bench, member, finished.over _⟩
    | cons other rest =>
      obtain ⟨rfl, _⟩ := List.cons.inj ended
      exact awaits earlier incident rest told speaks sending sent

/-- The rollback that follows a statement comes after it has been taken. -/
theorem course (finished : sending.FinishedBy bench) : Awaits (sending.course bench) := by
  intro earlier incident later split speaks other sent
  rw [Sending.course, Sending.recorded] at split
  cases earlier with
  | nil => cases sent
  | cons one earlier =>
    obtain ⟨rfl, second⟩ := List.cons.inj split
    cases earlier with
    | nil =>
      obtain ⟨rfl, _⟩ := List.cons.inj second
      cases speaks
    | cons two earlier =>
      obtain ⟨rfl, third⟩ := List.cons.inj second
      -- nothing else is sent before the rollback
      have only : .sent other ∉ earlier := by
        intro member
        have inside : .sent other ∈ earlier ++ incident :: later := List.mem_append_left _ member
        rw [← show _ = earlier ++ incident :: later from third] at inside
        split at inside
        · cases List.mem_singleton.1 inside
        · cases inside
      have same : other = sending := by simpa [only] using sent
      exact ⟨bench, by simp [same], (same ▸ finished : other.FinishedBy bench).over _⟩

/-- One statement after the other is sent and then taken. -/
theorem flatMap_course {takings : List (Sending × Bench)}
    (finished : ∀ taking ∈ takings, taking.1.FinishedBy taking.2) :
    Awaits (takings.flatMap fun taking => taking.1.course taking.2) := by
  induction takings with
  | nil => intro earlier incident later split; simp at split
  | cons taking rest hypothesis =>
    have first : taking.1.FinishedBy taking.2 := finished taking List.mem_cons_self
    refine (course first).append (fun other sent => ?_)
      (hypothesis fun other member => finished other (List.mem_cons_of_mem _ member))
    have same : other = taking.1 := by
      rw [Sending.course, Sending.recorded] at sent
      split at sent <;> simpa using sent
    exact ⟨taking.2, by simp [Sending.course, Sending.recorded, same], same ▸ first⟩

end Awaits

section

variable {sendings : List Sending}

/-- The texts that are sent for a statement. If it is a lock conflict it is followed by a rollback. -/
def Sending.texts (sending : Sending) : List Value :=
  sending.statement.text :: if sending.outcome.conflicts then [.text Bench.rollbackText] else []

/-- They are the texts of what happens with it. -/
theorem Sending.filterMap_course (sending : Sending) (bench : Bench) :
    (sending.course bench).filterMap Incident.text? = sending.texts := by
  unfold course recorded texts
  split <;> rfl

/-- No rollback follows statements that are no lock conflicts. -/
theorem flatMap_texts_of_calm (calm : ∀ sending ∈ sendings, sending.Calm) :
    sendings.flatMap Sending.texts = sendings.map (·.statement.text) := by
  have alone : ∀ sending ∈ sendings, sending.texts = [sending.statement.text] := by
    intro sending member
    rw [Sending.texts, (calm sending member).calm]
    rfl
  rw [List.flatMap_congr alone, List.map_eq_flatMap]

theorem executedTexts_append (first second : List StatementResult) :
    executedTexts (first ++ second) = executedTexts first ++ executedTexts second := by
  simp [executedTexts]

/-- The statements that were sent were executed. -/
theorem executedTexts_result (sendings : List Sending) :
    executedTexts (sendings.map Sending.result) = sendings.map (·.statement.text) := by
  have kept : (sendings.map Sending.result).filter
      (fun result => decide (result.executed = .boolean true)) = sendings.map Sending.result := by
    refine List.filter_eq_self.2 fun result member => ?_
    obtain ⟨sending, _, rfl⟩ := List.mem_map.1 member
    rfl
  rw [executedTexts, kept, List.map_map]
  rfl

/-- Those that were given up were not. -/
theorem executedTexts_skipped (statements : List Statement) :
    executedTexts (statements.map (Run.skipped · true)) = [] := by
  simp [executedTexts, Run.skipped]

end

namespace Moment.Final

variable {batch : Batch} {moment : Moment} {transaction : OpenTransaction}

/-- At a final moment every statement that was sent has an outcome. -/
theorem answered (final : moment.Final batch) (sound : Sound batch moment)
    (member : transaction ∈ batch) :
    ∀ sending ∈ moment.sendingsOf transaction.id, sending.reply.result = .ok sending.outcome := by
  intro sending sent
  rcases final.ended sound member with ⟨stands, _⟩ | ⟨earlier, last, all, stands⟩
  · exact (stands.calm sending sent).answered
  · rw [all] at sent
    rcases List.mem_append.1 sent with before | final
    · exact (stands.calm sending before).answered
    · rw [List.mem_singleton.1 final]
      exact stands.answered

/-- At a final moment the trace accounts for the texts that were sent for the statements of each
transaction. -/
theorem textsOf_eq (final : moment.Final batch) (sound : Sound batch moment)
    (member : transaction ∈ batch) :
    moment.progress.trace.textsOf transaction.id =
      (moment.sendingsOf transaction.id).flatMap Sending.texts := by
  have texts : moment.progress.trace.textsOf transaction.id =
      executedTexts (moment.progress.view transaction.id).results ++
        if (moment.progress.view transaction.id).abort.isSome then [.text Bench.rollbackText]
        else [] := rfl
  rw [texts]
  rcases final.ended sound member with ⟨stands, _⟩ | ⟨earlier, last, all, stands⟩
  · rw [stands.results, stands.abort, executedTexts_result, flatMap_texts_of_calm stands.calm]
    exact List.append_nil _
  · rw [stands.results, stands.abort, executedTexts_append, executedTexts_result,
      executedTexts_skipped, all, List.flatMap_append, flatMap_texts_of_calm stands.calm]
    simp [Sending.texts, stands.conflict]

end Moment.Final

namespace Run

variable {batch : Batch} {start bench after : Bench} {moment : Moment} {history : List Incident}
  {transaction : OpenTransaction} {takings : List (Sending × Bench)} {trace : Trace}

/-- What was sent over the session of a transaction are the texts of what has happened there. -/
theorem Chronicle.texts (numbered : batch.Numbered) (chronicle : Chronicle batch start moment history)
    (member : transaction ∈ batch)
    (sessions : ∀ other ∈ batch,
      transaction.session.connection = other.session.connection → transaction = other)
    (opened : ∀ incident ∈ history.filter (·.isOf transaction.id), incident.text?.isSome →
      incident.transaction.session.isClosed incident.bench.server = false) :
    transaction.session.texts moment.bench.server = transaction.session.texts start.server ++
      (history.filter (·.isOf transaction.id)).filterMap Incident.text? := by
  have heard : ∀ incident ∈ history, incident.entries.filterMap transaction.session.textOf? =
      if incident.isOf transaction.id then incident.text?.toList else [] := by
    intro incident inside
    have held := chronicle.transaction_mem numbered incident inside
    have own : incident.isOf transaction.id = true ↔ incident.transaction = transaction :=
      numbered.alike_iff held member
    unfold Incident.entries
    cases said : incident.text? with
    | none => simp
    | some text =>
      simp only [Session.filterMap_entries]
      by_cases mine : incident.isOf transaction.id = true
      · have open_ := opened incident (List.mem_filter.2 ⟨inside, mine⟩) (by rw [said]; rfl)
        rw [if_pos mine, if_pos ⟨open_, by rw [own.1 mine]⟩]
        rfl
      · rw [if_neg mine, if_neg fun both => mine (own.2 (sessions _ held both.2).symm)]
  rw [Session.texts, chronicle.log, List.filterMap_append, List.filterMap_flatMap,
    List.flatMap_congr heard, flatMap_toList_filter]
  rfl

/-- At a final moment each statement that a transaction has sent has been taken, the texts of what has
happened with it are those that the trace accounts for, and all of them were sent. -/
theorem Chronicle.final_course (numbered : batch.Numbered)
    (chronicle : Chronicle batch start moment history) (final : moment.Final batch)
    (member : transaction ∈ batch) :
    Awaits (history.filter (·.isOf transaction.id)) ∧
      (history.filter (·.isOf transaction.id)).filterMap Incident.text? =
        moment.progress.trace.textsOf transaction.id ∧
      ∀ incident ∈ history.filter (·.isOf transaction.id), incident.text?.isSome →
        incident.transaction.session.isClosed incident.bench.server = false := by
  obtain ⟨takings, waiting, course⟩ := chronicle.course numbered member
  have nothing : waiting = none := by
    have empty := course.parked
    rw [final.clear] at empty
    cases waiting with
    | none => rfl
    | some other => cases empty
  subst nothing
  have told : history.filter (·.isOf transaction.id) =
      takings.flatMap fun taking => taking.1.course taking.2 := by simpa using course.told
  have all : moment.sendingsOf transaction.id = takings.map Prod.fst := by simpa using course.all
  rw [told]
  have sound := Sound.of_reached numbered chronicle.reached
  refine ⟨.flatMap_course course.finished, ?_, fun incident inside speaks => ?_⟩
  · rw [final.textsOf_eq sound member, all, List.filterMap_flatMap, List.flatMap_map]
    exact List.flatMap_congr fun taking _ => taking.1.filterMap_course taking.2
  · obtain ⟨taking, held, happened⟩ := List.mem_flatMap.1 inside
    rcases List.mem_cons.1 happened with rfl | further
    · have sent : taking.1 ∈ moment.sendingsOf transaction.id := all ▸ List.mem_map_of_mem held
      exact Session.isClosed_of_reply (final.answered sound member taking.1 sent)
    · unfold Sending.recorded at further
      split at further
      next conflict =>
        rcases List.mem_pair.1 further with rfl | rfl
        · cases speaks
        · obtain ⟨outcome, answered⟩ := course.answered taking held conflict
          exact Session.isClosed_of_reply answered
      next =>
        rw [List.mem_singleton.1 further] at speaks
        cases speaks

/-- The chronicle of the whole interleaved run of a batch, which begins on a bench, ends with the trace and
leaves the other bench. -/
def Chronicled (batch : Batch) (bench : Bench) (trace : Trace) (after : Bench)
    (history : List Incident) : Prop :=
  ∃ start moment, (prepare batch .interleaved).Returns bench () start ∧
    Chronicle batch start moment history ∧ moment.Final batch ∧
      ∃ contents, Bench.snapshot.Returns moment.bench contents after ∧
        trace = { moment.progress.trace with finalState := contents }

/-- What transactions send neither opens connections nor changes the session for setup statements. -/
theorem seated_preserves (batch : Batch) (start : Bench) : batch.Preserves fun scene =>
    scene.admin = start.admin ∧
      scene.server.connections.length = start.server.connections.length := by
  have kept : ∀ (scene : Scene) (session : Session) (text : Value),
      (scene.send session text).server.connections.length = scene.server.connections.length :=
    fun scene session text => congrArg Prod.snd (session.register_execute text scene.server)
  exact ⟨fun _ same _ _ _ _ => ⟨same.1, (kept ..).trans same.2⟩,
    fun _ same _ _ => ⟨same.1, (kept ..).trans same.2⟩⟩

/-- Preparing a run sends nothing over the sessions of transactions. -/
theorem maintains_prepare {session : Session} {texts : List Value} (strategy : Strategy) :
    Task.Maintains (Bench.Hears session texts) (prepare batch strategy) :=
  Bench.maintains_reproduce.bind fun _ => Task.maintains_modify fun _ hears => hears.of_scene rfl

/-- A run that returns has sent over the session of each transaction the texts of its executed results
and, if it was aborted, a rollback, and nothing else. There is a result for each statement of the
transaction, in order. In an interleaved run, whenever a text was sent over a session, each statement that
was sent over it before had been taken and was finished by the clock. -/
theorem run_texts (numbered : batch.Numbered) (seats : bench.Seats batch) {strategy : Strategy}
    {reference : Option Trace} {order : Value}
    (ordered : strategy = .serialized → ∃ listed, chosenOrder batch reference order = .ok listed ∧
      listed.Perm batch.ids)
    (returned : (run batch strategy reference order).Returns bench trace after) :
    (∀ transaction ∈ batch,
      (trace.resultsOf transaction.id).map (·.statement) = transaction.statements ∧
        transaction.session.texts after.server =
          transaction.session.texts bench.server ++ trace.textsOf transaction.id) ∧
      (strategy = .interleaved → ∃ history, Chronicled batch bench trace after history ∧
        ∀ transaction ∈ batch,
          (history.filter (·.isOf transaction.id)).filterMap Incident.text? =
            trace.textsOf transaction.id ∧
          Awaits (history.filter (·.isOf transaction.id))) := by
  obtain ⟨start, ran, between, contents, prepared, _, running, reading, rfl⟩ :=
    run_returns.1 returned
  have begun : ∀ transaction ∈ batch,
      start.Hears transaction.session (transaction.session.texts bench.server) :=
    fun transaction member => maintains_prepare strategy _ _ _
      ⟨rfl, seats.known transaction member, seats.keeps transaction member⟩ prepared
  have ended : ∀ transaction ∈ batch, ∀ texts, between.Hears transaction.session texts →
      transaction.session.texts after.server = texts :=
    fun transaction _ texts hears => (Bench.maintains_snapshot _ _ _ hears reading).texts
  cases strategy with
  | interleaved =>
    obtain ⟨last, reached, final, rfl, rfl⟩ := interleaved_returns numbered running
    obtain ⟨history, chronicle⟩ := exists_chronicle numbered reached
    have sound := Sound.of_reached numbered reached
    obtain ⟨admin, count⟩ := reached.preserves (seated_preserves batch start) ⟨rfl, rfl⟩
    refine ⟨fun transaction member => ⟨final.statements_results sound member, ?_⟩, fun _ =>
      ⟨history, ⟨start, last, prepared, chronicle, final, contents, reading, rfl⟩,
        fun transaction member => ?_⟩⟩
    · obtain ⟨_, told, opened⟩ := chronicle.final_course numbered final member
      have hears := begun transaction member
      refine ended transaction member _ ⟨?_, ?_, ?_⟩
      · rw [chronicle.texts numbered member (seats.distinct transaction member) opened, told,
          hears.texts]
        rfl
      · intro number same
        exact (hears.known number same).trans_eq count.symm
      · intro other present
        exact hears.keeps other (admin.symm.trans present)
    · obtain ⟨awaits, told, _⟩ := chronicle.final_course numbered final member
      exact ⟨told, awaits⟩
  | serialized =>
    obtain ⟨listed, chosen, permuted⟩ := ordered rfl
    refine ⟨fun transaction member => ?_, nofun⟩
    obtain ⟨hears, all⟩ := serial_accounts numbered member (seats.distinct transaction member) chosen
      permuted (begun transaction member) running
    exact ⟨all, ended transaction member _ hears⟩

end Run

namespace Sample

/-- The two transactions that cross each other have sessions of their own. -/
theorem crossing_seats (rules : List Rule) : (bench rules).Seats crossing where
  known := by
    intro transaction member number connected
    rcases List.mem_pair.1 member with rfl | rfl <;> cases connected <;> simp [bench]
  keeps := nofun
  distinct := by
    intro left first right second same
    rcases List.mem_pair.1 first with rfl | rfl <;> rcases List.mem_pair.1 second with rfl | rfl
    · rfl
    · cases same
    · cases same
    · rfl

/-- What the trace accounts for when the first insertion ends in a deadlock. -/
theorem crossing_texts :
    ((Run.run crossing .interleaved none .null (bench oneDeadlock)).1.toOption.map fun trace =>
        (trace.textsOf (.integer 1), trace.textsOf (.integer 2))) =
      some
        ([.text "BEGIN", .text "INSERT INTO t0 VALUES (1)", .text "ROLLBACK"],
          [.text "BEGIN", .text "INSERT INTO t1 VALUES (1)", .text "SELECT * FROM t0",
            .text "COMMIT"]) := by
  decide +kernel

end Sample

namespace Run

/-- The first session is sent a rollback after its insertion, and the second one all of its statements. -/
theorem run_texts_deadlock :
    ∃ trace after, (run Sample.crossing .interleaved none .null).Returns
        (Sample.bench Sample.oneDeadlock) trace after ∧
      (Sample.insertAndRead 1 "t0" "t1").session.texts after.server =
        [.text "BEGIN", .text "INSERT INTO t0 VALUES (1)", .text "ROLLBACK"] ∧
      (Sample.insertAndRead 2 "t1" "t0").session.texts after.server =
        [.text "BEGIN", .text "INSERT INTO t1 VALUES (1)", .text "SELECT * FROM t0",
          .text "COMMIT"] := by
  obtain ⟨trace, after, returned, seen⟩ := Task.returns_of_map Sample.crossing_texts
  obtain ⟨first, second⟩ := Prod.mk.inj seen
  obtain ⟨sent, _⟩ := run_texts Sample.crossing_numbered (Sample.crossing_seats _)
    (fun serial => by cases serial) returned
  have begun : ∀ session : Session, session.texts (Sample.bench Sample.oneDeadlock).server = [] :=
    fun _ => rfl
  refine ⟨trace, after, returned, ?_, ?_⟩
  · rw [(sent _ (List.mem_pair.2 (.inl rfl))).2, begun]
    exact first
  · rw [(sent _ (List.mem_pair.2 (.inr rfl))).2, begun]
    exact second

end Run

end SerialCheck

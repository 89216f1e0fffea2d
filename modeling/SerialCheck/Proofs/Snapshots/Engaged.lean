import SerialCheck.Proofs.Interleaved.Bookkeeping
import SerialCheck.Proofs.Interleaved.Prompt
import SerialCheck.Proofs.Snapshots.Taken

/-!
# A batch that engages the engine

How many statements a transaction has sent tells whether its snapshot is there: the opening statement
begins work without one, the first data statement takes it, and the closing statement ends the work. As
long as the engine knows all tables that the statements are about (`Batch.Engaged`), a statement takes a
snapshot exactly if it is the first data statement, and then that of its own transaction
(`Batch.Engaged.execute`).
-/
namespace SerialCheck

namespace Database

variable {database : Database}

/-- Adding a row makes no table known or unknown, also if the row goes astray. -/
theorem knows_add_any (database : Database) (name : String) (row : Value) (other : String) :
    (database.add name row).Knows other ↔ database.Knows other := by
  by_cases known : database.Knows name
  · exact knows_add known other
  · rw [add, if_pos (isNone_iff.2 known)]
    rfl

/-- Neither does a commit. -/
theorem knows_commitTo (work : Work) (database : Database) (other : String) :
    (work.commitTo database).Knows other ↔ database.Knows other := by
  unfold Work.commitTo
  induction work.pending generalizing database with
  | nil => rfl
  | cons entry rest hypothesis =>
    exact (hypothesis (database.add entry.1 entry.2)).trans (knows_add_any database _ _ other)

end Database

/-- What a statement is about depends on the known tables only. -/
theorem Transaction.IsAbout.of_knows {transaction : Transaction} {database other : Database}
    (about : transaction.IsAbout database) (same : ∀ name, other.Knows name ↔ database.Knows name) :
    transaction.IsAbout other := by
  intro statement member
  have touching := about statement member
  unfold Statement.touches at touching ⊢
  split at touching
  · simpa only [same] using touching
  · simpa only [same] using touching
  · exact touching

/-- A statement takes a snapshot exactly if it is the first data statement. -/
theorem Transaction.Numbered.takesSnapshot_at {transaction : Transaction}
    (numbered : transaction.Numbered) {statement : Statement} {place : Nat}
    (next : transaction.statements[place]? = some statement) :
    statement.takesSnapshot = true ↔ place = 1 ∧ place + 1 < transaction.size := by
  have index := (numbered.statements place statement next).2
  rw [numbered.takesSnapshot_iff (List.mem_of_getElem? next), index]
  have first : Value.integer place = .integer 1 ↔ place = 1 := by
    rw [Value.integer.injEq]
    omega
  rw [first]
  refine and_congr_right fun _ => ?_
  rcases transaction.at_place next with ⟨zero, _⟩ | ⟨_, within, data⟩ | ⟨final, rfl⟩
  · omega
  · exact iff_of_true (transaction.dataOnly statement data) within
  · refine iff_of_false ?_ (by omega)
    have ends := transaction.closes
    cases word : transaction.closing.kind <;> simp_all [StatementKind.isControl, StatementKind.isTerminal]

/-- The work of a transaction that has sent so many statements: it has its snapshot if one of them was a
data statement. -/
def Work.Has (work : Option Work) (sent : Nat) : Prop :=
  ∃ given, work = some given ∧ (given.snapshot.isSome = true ↔ 2 ≤ sent)

/-- The next statement of a transaction over known tables meets no error. It leaves the tables known and
the work as it is to be after so many statements; the last one ends the work. -/
theorem Engine.perform_next (engine : Engine) {transaction : Transaction}
    (spoken : transaction.Spoken) (about : transaction.IsAbout engine.database) {statement : Statement}
    {place : Nat} (next : transaction.statements[place]? = some statement) (text : String)
    (working : 0 < place → place < transaction.size → Work.Has engine.work place) :
    ∃ rows after, engine.perform text statement.command = (.ok rows, after) ∧
      (∀ name, after.database.Knows name ↔ engine.database.Knows name) ∧
        (place + 1 < transaction.size → Work.Has after.work (place + 1)) ∧
          (place + 1 = transaction.size → after.work = none) := by
  have two := transaction.two_le_size
  -- work begins with the first statement, has its snapshot from the second one on, and ends with the last
  rcases transaction.at_place next with ⟨rfl, rfl⟩ | ⟨positive, within, data⟩ | ⟨final, rfl⟩
  · rw [spoken.opening]
    refine ⟨none, _, rfl, fun _ => Iff.rfl, fun _ => ⟨{}, rfl, ?_⟩, fun only => ?_⟩
    · simp
    · omega
  · obtain ⟨work, held, _⟩ := working positive (by omega)
    have touching := about statement data
    have has (pending : List (String × Value)) :
        Work.Has (some { work.withSnapshot engine.database with pending }) (place + 1) :=
      ⟨_, rfl, iff_of_true rfl (by omega)⟩
    unfold Statement.touches at touching
    split at touching
    next name writes =>
      have known : engine.database.Knows name := of_decide_eq_true touching
      have present : ¬ (engine.database.table? name).isNone = true := fun none =>
        Database.isNone_iff.1 none known
      have written : engine.write name text = (.ok none, ⟨engine.database,
          some { work.withSnapshot engine.database with
            pending := work.pending ++ [(name, .row [.text text])] }⟩) := by
        rw [Engine.write, if_neg present, held]
        rfl
      rw [writes]
      exact ⟨none, _, written, fun _ => Iff.rfl, fun _ => has _, fun only => by omega⟩
    next name reads =>
      obtain ⟨table, present⟩ := Option.isSome_iff_exists.1 (of_decide_eq_true touching)
      have read : engine.read name = (.ok (some ((work.withSnapshot engine.database).visible name)),
          ⟨engine.database, some (work.withSnapshot engine.database)⟩) := by
        rw [Engine.read, present, held]
      rw [reads]
      exact ⟨_, _, read, fun _ => Iff.rfl, fun _ => has work.pending, fun only => by omega⟩
    · cases touching
  · have closing := spoken.closing
    split at closing
    · rw [closing]
      exact ⟨none, _, rfl, Database.knows_commitTo _ _, fun less => by omega, fun _ => rfl⟩
    · rw [closing]
      exact ⟨none, _, rfl, fun _ => Iff.rfl, fun less => by omega, fun _ => rfl⟩

/-- A snapshot is new behind a statement exactly if that is the first data statement. -/
theorem Transaction.Numbered.new_snapshot {transaction : Transaction} (numbered : transaction.Numbered)
    {statement : Statement} {place : Nat} (next : transaction.statements[place]? = some statement)
    {before after : Option Work}
    (working : 0 < place → place < transaction.size → Work.Has before place)
    (going : place + 1 < transaction.size → Work.Has after (place + 1))
    (ended : place + 1 = transaction.size → after = none) :
    (!before.any (·.snapshot.isSome) && after.any (·.snapshot.isSome)) = statement.takesSnapshot := by
  have within : place < transaction.size := (List.getElem?_eq_some_iff.1 next).1
  have takes := numbered.takesSnapshot_at next
  rw [Bool.eq_iff_iff, takes, Bool.and_eq_true, Bool.not_eq_true']
  rcases Nat.lt_or_eq_of_le (Nat.succ_le_of_lt within) with less | final
  · obtain ⟨given, rfl, later⟩ := going less
    rw [Option.any_some, later]
    rcases Nat.eq_zero_or_pos place with rfl | positive
    · omega
    · obtain ⟨earlier, rfl, sooner⟩ := working positive within
      rw [Option.any_some, ← Bool.not_eq_true, sooner]
      omega
  · rw [ended final]
    refine iff_of_false (fun both => Bool.false_ne_true both.2) ?_
    omega

/-- If no other transaction of a batch passes a test, the one is all that can be left. -/
theorem Batch.Numbered.filter_eq {batch : Batch} (numbered : batch.Numbered)
    {transaction : OpenTransaction} (member : transaction ∈ batch) (test : OpenTransaction → Bool)
    (others : ∀ other ∈ batch, other ≠ transaction → test other = false) :
    batch.filter test = if test transaction then [transaction] else [] := by
  obtain ⟨front, back, rfl⟩ := List.append_of_mem member
  have once : (front ++ transaction :: back).Nodup := List.Nodup.of_map _ numbered.distinct
  have apart := (List.nodup_cons.1 (List.perm_middle.nodup_iff.1 once)).1
  have none (part : Batch) (inside : ∀ other ∈ part, other ∈ front ++ back) : part.filter test = [] := by
    refine List.filter_eq_nil_iff.2 fun other held => Bool.eq_false_iff.1 (others other ?_ ?_)
    · have known := inside other held
      simp only [List.mem_append, List.mem_cons] at known ⊢
      tauto
    · rintro rfl
      exact apart (inside other held)
  rw [List.filter_append, List.filter_cons, none front fun _ => List.mem_append_left _,
    none back fun _ => List.mem_append_right _]
  rfl

namespace Batch

/-- A calm server knows all tables that the statements of a batch are about. The sessions of the batch are
open and do not share their connections, and each transaction that has sent some of its statements but not
all of them has the work that goes with so many. -/
structure Engaged (batch : Batch) (sent : OpenTransaction → Nat) (server : Server) : Prop where
  /-- The rules only delay texts. -/
  calm : server.Calm
  /-- The engine knows the tables. -/
  about : ∀ transaction ∈ batch, transaction.IsAbout server.database
  /-- No two transactions share a connection. -/
  distinct : ∀ left ∈ batch, ∀ right ∈ batch,
    left.session.connection = right.session.connection → left = right
  /-- The sessions are open, and those of transactions that have begun have their work. -/
  session : ∀ transaction ∈ batch, ∃ number connection,
    transaction.session.Uses server number connection ∧
      (0 < sent transaction → sent transaction < transaction.size →
        Work.Has connection.work (sent transaction))

namespace Engaged

variable {batch : Batch} {sent more : OpenTransaction → Nat} {server : Server}

/-- Only the transactions that are in the middle of their statements matter. -/
theorem congr (engaged : batch.Engaged sent server)
    (same : ∀ transaction ∈ batch, 0 < more transaction → more transaction < transaction.size →
      more transaction = sent transaction) : batch.Engaged more server where
  calm := engaged.calm
  about := engaged.about
  distinct := engaged.distinct
  session := by
    intro transaction member
    obtain ⟨number, connection, uses, work⟩ := engaged.session transaction member
    refine ⟨number, connection, uses, fun begun left => ?_⟩
    have equal := same transaction member begun left
    rw [equal] at begun left ⊢
    exact work begun left

/-- A transaction sends its next statement. There is no error, and the engine takes the snapshot of that
transaction if this is its first data statement, and else none. -/
theorem execute (engaged : batch.Engaged sent server) (numbered : batch.Numbered)
    {transaction : OpenTransaction} (member : transaction ∈ batch) (spoken : transaction.Spoken)
    {statement : Statement} (next : transaction.statements[sent transaction]? = some statement) :
    ∃ delay rows record after, transaction.session.execute statement.text server =
        (⟨delay, .ok { rows }, record⟩, after) ∧
      batch.Engaged (fun other => if other.id = transaction.id then sent transaction + 1
        else sent other) after ∧
      ∀ first order, batch.Took first order server →
        batch.Took first (order ++ if statement.takesSnapshot then [transaction.id] else []) after := by
  obtain ⟨number, connection, uses, work⟩ := engaged.session transaction member
  obtain ⟨text, said⟩ := spoken.text statement (List.mem_of_getElem? next)
  have heard : statement.command = .ofText text := by rw [Statement.command, said]
  obtain ⟨rows, engine, performed, known, going, ended⟩ :=
    Engine.perform_next ⟨server.database, connection.work⟩ spoken (engaged.about transaction member)
      next text work
  have answered : server.engineAfter connection text = (.ok rows, engine) := by
    rw [← performed, heard]
    rfl
  obtain ⟨delay, record, after, executed, became⟩ := Session.execute_became engaged.calm uses text
  rw [answered] at executed became
  have within : sent transaction < transaction.size := (List.getElem?_eq_some_iff.1 next).1
  have own := uses.of_became_self became uses.alive
  -- no two sessions share a connection, so what the other transactions have under way stays theirs
  have foreign {other : OpenTransaction} (inside : other ∈ batch) (apart : other ≠ transaction)
      {place : Nat} {held : Connection} (theirs : other.session.Uses server place held) :
      other.session.Uses after place held := by
    refine theirs.of_became became ?_
    rintro rfl
    exact apart (engaged.distinct other inside transaction member (theirs.named.trans uses.named.symm))
  refine ⟨delay, rows, record, after, by rw [said]; exact executed, ?_, fun first order took => ?_⟩
  · constructor
    · exact became.calm
    · intro other inside
      rw [became.database]
      exact (engaged.about other inside).of_knows known
    · exact engaged.distinct
    · intro other inside
      by_cases same : other = transaction
      · subst same
        refine ⟨number, _, own, fun _ left => ?_⟩
        rw [if_pos rfl] at left ⊢
        exact going left
      · obtain ⟨place, held, theirs, working⟩ := engaged.session other inside
        have apart : other.id ≠ transaction.id := fun ids => same (numbered.eq_of_id inside member ids)
        refine ⟨place, held, foreign inside same theirs, ?_⟩
        rw [if_neg apart]
        exact working
  · have replayed : server.replay (number, .sql (.text text)) = after := by
      rw [uses.replay, executed]
    have taken : batch.taken server (number, .sql (.text text)) =
        if statement.takesSnapshot then [transaction.id] else [] := by
      rw [Batch.taken, replayed, numbered.filter_eq member]
      · show List.map _ (if !server.hasSnapshot transaction.session &&
          after.hasSnapshot transaction.session then [transaction] else []) = _
        rw [uses.hasSnapshot, own.hasSnapshot,
          (numbered.each transaction member).new_snapshot next work going ended]
        split <;> rfl
      · intro other inside apart
        obtain ⟨place, held, theirs, _⟩ := engaged.session other inside
        rw [theirs.hasSnapshot, (foreign inside apart theirs).hasSnapshot, Bool.not_and_self]
    have gone := took.execute uses (.text text)
    rw [executed, taken] at gone
    exact gone

end Engaged

end Batch

end SerialCheck

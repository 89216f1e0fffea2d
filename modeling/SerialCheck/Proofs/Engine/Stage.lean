import SerialCheck.Proofs.Engine.Calm
import SerialCheck.Proofs.Engine.Turns

/-!
# The stage of a run

A calm server on which a batch runs holds what the turns so far have made of the database at the
beginning (`Stage`). A statement that a transaction sends in its turn is answered as the turns before
it say, and the turns with it describe the server afterwards (`Stage.statement`).
-/
namespace SerialCheck

section Turns

variable {base : Database} {turns : List Turn} {turn : Turn} {id : Value}

/-- A statement that touches no known table changes nothing about the work of its transaction. -/
theorem workAt_append_idle (own : turn.isOf id = true)
    (idle : turn.statement.touches base = false) :
    workAt base (turns ++ [turn]) id = workAt base turns id := by
  have rows : turn.statement.rows base = [] := Statement.rows_of_not_touches idle
  have pending : rowsOf base (statementsOf turns id ++ [turn.statement]) =
      rowsOf base (statementsOf turns id) := by
    simp [rowsOf, rows]
  have taken : (statementsOf turns id ++ [turn.statement]).any (Statement.touches base) =
      (statementsOf turns id).any (Statement.touches base) := by
    simp [idle]
  unfold workAt
  rw [statementsOf_append, statementsOf_singleton own, pending, taken]
  split
  next before => rw [beforeSnapshot_append _ _ before]
  · rfl

/-- A statement on a known table takes a snapshot if there is none, and its rows are added. -/
theorem workAt_append_touching (own : turn.isOf id = true)
    (touching : turn.statement.touches base = true) :
    workAt base (turns ++ [turn]) id =
      { (workAt base turns id).withSnapshot (base.adding (committed base turns)) with
        pending := (workAt base turns id).pending ++ turn.statement.rows base } := by
  have taken : (statementsOf turns id ++ [turn.statement]).any (Statement.touches base) = true := by
    simp [touching]
  have pending : rowsOf base (statementsOf turns id ++ [turn.statement]) =
      rowsOf base (statementsOf turns id) ++ turn.statement.rows base := by
    simp [rowsOf]
  unfold workAt Work.withSnapshot
  rw [statementsOf_append, statementsOf_singleton own, pending, if_pos taken,
    beforeSnapshot_append_touching own touching []]
  cases before : (statementsOf turns id).any (Statement.touches base) with
  | true => rfl
  | false =>
    rw [beforeSnapshot_of_idle before]
    rfl

/-- The rows that a transaction sees once it has a snapshot. -/
theorem visible_withSnapshot {table : StoredTable} {name : String}
    (found : base.table? name = some table) :
    ((workAt base turns id).withSnapshot (base.adding (committed base turns))).visible name =
      rowsSeen base turns id table := by
  have named : table.name = name := Database.name_of_table? found
  have snapshot : ((workAt base turns id).withSnapshot
      (base.adding (committed base turns))).snapshot =
        some (base.adding (committed base (beforeSnapshot base turns id))).snapshot := by
    unfold workAt Work.withSnapshot
    cases before : (statementsOf turns id).any (Statement.touches base) with
    | true => rfl
    | false =>
      rw [beforeSnapshot_of_idle before]
      rfl
  have there : (base.adding (committed base (beforeSnapshot base turns id))).table? name =
      some (table.adding (rowsFor name (committed base (beforeSnapshot base turns id)))) := by
    rw [Database.table?_adding fun _ member => knows_of_mem_committed member, found]
    rfl
  rw [Work.visible, snapshot, Option.getD_some, Database.lookup_snapshot there, rowsSeen, named]
  rfl

end Turns

/-- A statement of a transaction is its opening, a data statement or its closing. -/
theorem Transaction.at_place (transaction : Transaction) {statement : Statement} {place : Nat}
    (next : transaction.statements[place]? = some statement) :
    (place = 0 ∧ transaction.opening = statement) ∨
      (0 < place ∧ place + 1 < transaction.size ∧ statement ∈ transaction.data) ∨
        (place + 1 = transaction.size ∧ transaction.closing = statement) := by
  have size : transaction.size = transaction.data.length + 2 := by simp [size, statements]
  have within : place < transaction.size := (List.getElem?_eq_some_iff.1 next).1
  cases place with
  | zero => exact .inl ⟨rfl, by simpa [statements] using next⟩
  | succ place =>
    have behind : (transaction.data ++ [transaction.closing])[place]? = some statement := by
      simpa [statements] using next
    by_cases final : place = transaction.data.length
    · subst final
      refine .inr (.inr ⟨by omega, ?_⟩)
      simpa using behind
    · rw [List.getElem?_append_left (by omega)] at behind
      exact .inr (.inl ⟨by omega, by omega, List.mem_of_getElem? behind⟩)

namespace Engine

variable {base : Database} {turns : List Turn} {transaction : OpenTransaction}
  {statement : Statement} {text : String}

/-- The engine in the middle of a transaction. -/
def during (base : Database) (turns : List Turn) (id : Value) : Engine :=
  ⟨base.adding (committed base turns), some (workAt base turns id)⟩

/-- A data statement is answered as the turns so far say, and becomes part of the work. -/
theorem perform_data (spoken : (∃ name, statement.command = .read name) ∨
      ∃ name, statement.command = .write name) (said : statement.text = .text text) :
    (during base turns transaction.id).perform text statement.command =
      (answerAt base turns transaction.id statement.command,
        during base (turns ++ [⟨transaction, statement⟩]) transaction.id) := by
  have own : (Turn.mk transaction statement).isOf transaction.id = true := Value.alike_refl _
  have known : ∀ entry ∈ committed base turns, base.Knows entry.1 :=
    fun _ member => knows_of_mem_committed member
  have still : committed base (turns ++ [⟨transaction, statement⟩]) = committed base turns := by
    rw [committed_append]
    rcases spoken with ⟨name, reads⟩ | ⟨name, writes⟩
    · simp [committed, reads]
    · simp [committed, writes]
  have found : ∀ name, ((during base turns transaction.id).database.table? name) =
      (base.table? name).map fun table => table.adding (rowsFor name (committed base turns)) :=
    Database.table?_adding known
  have later : during base (turns ++ [⟨transaction, statement⟩]) transaction.id =
      ⟨base.adding (committed base turns),
        some (workAt base (turns ++ [⟨transaction, statement⟩]) transaction.id)⟩ := by
    rw [during, still]
  rw [later]
  rcases spoken with ⟨name, reads⟩ | ⟨name, writes⟩
  · rw [reads]
    show read (during base turns transaction.id) name = _
    unfold read
    rw [found]
    cases present : base.table? name with
    | none =>
      have idle : statement.touches base = false := by
        simp [Statement.touches, reads, Database.Knows, present]
      rw [workAt_append_idle own idle, answerAt_read_unknown present]
      rfl
    | some table =>
      have touching : statement.touches base = true := by
        simp [Statement.touches, reads, Database.Knows, present]
      have nothing : statement.rows base = [] := by simp [Statement.rows, reads]
      rw [workAt_append_touching own touching, nothing, List.append_nil, answerAt_read present,
        ← visible_withSnapshot present]
      rfl
  · rw [writes]
    show write (during base turns transaction.id) name text = _
    unfold write
    rw [found, Option.isNone_map]
    cases present : base.table? name with
    | none =>
      have idle : statement.touches base = false := by
        simp [Statement.touches, writes, Database.Knows, present]
      have unknown : ¬ base.Knows name := by simp [Database.Knows, present]
      rw [workAt_append_idle own idle, answerAt_write_unknown unknown]
      rfl
    | some table =>
      have touching : statement.touches base = true := by
        simp [Statement.touches, writes, Database.Knows, present]
      have knows : base.Knows name := by simp [Database.Knows, present]
      have row : statement.rows base = [(name, .row [.text text])] := by
        simp [Statement.rows, writes, knows, said]
      rw [workAt_append_touching own touching, row, answerAt_write knows]
      rfl

/-- An opening statement begins work in which nothing is done yet. -/
theorem perform_opening (engine : Engine) (opens : statement.command = .begin)
    (held : engine.database = base.adding (committed base turns))
    (fresh : statementsOf turns transaction.id = []) :
    engine.perform text statement.command =
      (answerAt base turns transaction.id statement.command,
        during base (turns ++ [⟨transaction, statement⟩]) transaction.id) := by
  have own : (Turn.mk transaction statement).isOf transaction.id = true := Value.alike_refl _
  have idle : statement.touches base = false := by simp [Statement.touches, opens]
  have still : committed base (turns ++ [⟨transaction, statement⟩]) = committed base turns := by
    rw [committed_append]
    simp [committed, opens]
  have empty : workAt base turns transaction.id = {} := by
    rw [workAt, fresh]
    rfl
  rw [during, still, workAt_append_idle own idle, empty, opens, ← held]
  rfl

/-- A commit adds the rows of the whole transaction. -/
theorem perform_commit (commits : statement.command = .commit)
    (all : statementsOf turns transaction.id ++ [statement] = transaction.statements) :
    (during base turns transaction.id).perform text statement.command =
      (answerAt base turns transaction.id statement.command,
        ⟨base.adding (committed base (turns ++ [⟨transaction, statement⟩])), none⟩) := by
  have nothing : statement.rows base = [] := by simp [Statement.rows, commits]
  have rows : transaction.rows base = rowsOf base (statementsOf turns transaction.id) := by
    simp [Transaction.rows, ← all, rowsOf, nothing]
  have added : committed base (turns ++ [⟨transaction, statement⟩]) =
      committed base turns ++ rowsOf base (statementsOf turns transaction.id) := by
    rw [committed_append, ← rows]
    simp [committed, commits]
  rw [added, Database.adding_append, commits]
  rfl

/-- A rollback leaves what is committed. -/
theorem perform_rollback (engine : Engine) (ends : statement.command = .rollback)
    (held : engine.database = base.adding (committed base turns)) :
    engine.perform text statement.command =
      (answerAt base turns transaction.id statement.command,
        ⟨base.adding (committed base (turns ++ [⟨transaction, statement⟩])), none⟩) := by
  have still : committed base (turns ++ [⟨transaction, statement⟩]) = committed base turns := by
    rw [committed_append]
    simp [committed, ends]
  rw [still, ends, ← held]
  rfl

/-- Each statement in its turn is answered as the turns so far say; until the last one, the
transaction's work is what the turns with it say. -/
theorem perform_statement (engine : Engine) {place : Nat} (spoken : transaction.Spoken)
    (said : statement.text = .text text)
    (held : engine.database = base.adding (committed base turns))
    (next : transaction.statements[place]? = some statement)
    (before : statementsOf turns transaction.id = transaction.statements.take place)
    (working : 0 < place → engine.work = some (workAt base turns transaction.id)) :
    ∃ work, engine.perform text statement.command =
        (answerAt base turns transaction.id statement.command,
          ⟨base.adding (committed base (turns ++ [⟨transaction, statement⟩])), work⟩) ∧
      (place + 1 < transaction.size →
        work = some (workAt base (turns ++ [⟨transaction, statement⟩]) transaction.id)) := by
  rcases transaction.at_place next with ⟨rfl, rfl⟩ | ⟨positive, _, member⟩ | ⟨final, rfl⟩
  · exact ⟨_, perform_opening engine spoken.opening held (by simpa using before), fun _ => rfl⟩
  · have busy : engine = during base turns transaction.id := by
      rw [during, ← held, ← working positive]
    have data : (∃ name, statement.command = .read name) ∨
        ∃ name, statement.command = .write name := by
      cases returns : statement.kind.returnsRows with
      | true => exact .inl (spoken.read statement member returns)
      | false => exact .inr (spoken.write statement member returns)
    rw [busy]
    exact ⟨_, perform_data data said, fun _ => rfl⟩
  · have positive : 0 < place := by
      have := transaction.two_le_size
      omega
    have busy : engine = during base turns transaction.id := by
      rw [during, ← held, ← working positive]
    have ended : ¬ place + 1 < transaction.size := by omega
    have closing := spoken.closing
    split at closing
    · have all : statementsOf turns transaction.id ++ [transaction.closing] =
          transaction.statements := by
        calc
          _ = transaction.statements.take place ++ [transaction.closing] := by rw [before]
          _ = transaction.statements.take (place + 1) := by
            rw [List.take_add_one, next, Option.toList_some]
          _ = transaction.statements := List.take_of_length_le (by rw [final]; rfl)
      rw [busy]
      exact ⟨_, perform_commit closing all, fun left => absurd left ended⟩
    · exact ⟨_, perform_rollback engine closing held, fun left => absurd left ended⟩

end Engine

/-- The sessions of a batch and the one for setup statements have connections of their own. -/
structure Batch.Apart (batch : Batch) (admin : Session) : Prop where
  /-- No two transactions share a connection. -/
  distinct : ∀ left ∈ batch, ∀ right ∈ batch,
    left.session.connection = right.session.connection → left = right
  /-- No transaction has the connection for setup statements. -/
  admin : ∀ transaction ∈ batch, transaction.session.connection ≠ admin.connection

namespace Session.Uses

variable {session : Session} {server after : Server} {database : Database} {number other : Nat}
  {connection changed : Connection}

/-- A session goes on using its connection when another one has changed. -/
theorem of_became (uses : session.Uses server number connection)
    (became : server.Became after database other changed) (apart : number ≠ other) :
    session.Uses after number connection where
  named := uses.named
  present := by rw [became.connection, if_neg apart, uses.present]
  alive := uses.alive

/-- A session goes on using its own connection when that has changed and is still open. -/
theorem of_became_self (uses : session.Uses server number connection)
    (became : server.Became after database number changed) (alive : changed.closed = false) :
    session.Uses after number changed where
  named := uses.named
  present := by rw [became.connection, if_pos rfl]
  alive := alive

end Session.Uses

/-- A server on which the transactions of a batch have taken the given turns since the database was
the base. The transactions that are active are in the middle of their work. -/
structure Stage (batch : Batch) (admin : Session) (base : Database) (turns : List Turn)
    (active : OpenTransaction → Prop) (server : Server) : Prop where
  /-- The rules only delay texts. -/
  calm : server.Calm
  /-- The database has the rows that have been committed. -/
  database : server.database = base.adding (committed base turns)
  /-- The session for setup statements is open and idle. -/
  admin : ∃ number connection, admin.Uses server number connection ∧ connection.work = none
  /-- The sessions of the transactions are open, and those that are active have their work. -/
  session : ∀ transaction ∈ batch, ∃ number connection,
    transaction.session.Uses server number connection ∧
      (active transaction → connection.work = some (workAt base turns transaction.id))

namespace Stage

variable {batch : Batch} {admin : Session} {base : Database} {turns later : List Turn}
  {active busy : OpenTransaction → Prop} {server after : Server} {transaction : OpenTransaction}

/-- Of fewer transactions it can be said that they are active. -/
theorem mono (stage : Stage batch admin base turns active server)
    (fewer : ∀ transaction ∈ batch, busy transaction → active transaction) :
    Stage batch admin base turns busy server where
  calm := stage.calm
  database := stage.database
  admin := stage.admin
  session := by
    intro transaction member
    obtain ⟨number, connection, uses, work⟩ := stage.session transaction member
    exact ⟨number, connection, uses, fun works => work (fewer transaction member works)⟩

/-- When the connection of one transaction has changed, the work of the others has not. -/
theorem of_became (stage : Stage batch admin base turns active server) (apart : batch.Apart admin)
    (member : transaction ∈ batch) {number : Nat} {connection : Connection}
    (uses : transaction.session.Uses server number connection) {work : Option Work}
    (became : server.Became after (base.adding (committed base later)) number
      { connection with work })
    (own : busy transaction → work = some (workAt base later transaction.id))
    (others : ∀ other ∈ batch, other ≠ transaction → busy other →
      active other ∧ workAt base later other.id = workAt base turns other.id) :
    Stage batch admin base later busy after where
  calm := became.calm
  database := became.database
  admin := by
    obtain ⟨place, held, setting, idle⟩ := stage.admin
    refine ⟨place, held, setting.of_became became ?_, idle⟩
    rintro rfl
    exact apart.admin transaction member (uses.named.trans setting.named.symm)
  session := by
    intro other inside
    by_cases same : other = transaction
    · subst same
      exact ⟨number, _, uses.of_became_self became uses.alive, own⟩
    · obtain ⟨place, held, theirs, working⟩ := stage.session other inside
      refine ⟨place, held, theirs.of_became became ?_, fun works => ?_⟩
      · rintro rfl
        exact same (apart.distinct other inside transaction member
          (theirs.named.trans uses.named.symm))
      · obtain ⟨before, kept⟩ := others other inside same works
        rw [kept]
        exact working before

/-- A transaction that sends its next statement is answered as the turns so far say, and the turns
with it describe the server afterwards. -/
theorem statement (stage : Stage batch admin base turns active server) (numbered : batch.Numbered)
    (apart : batch.Apart admin) (member : transaction ∈ batch) (spoken : transaction.Spoken)
    {statement : Statement} {place : Nat}
    (next : transaction.statements[place]? = some statement)
    (before : statementsOf turns transaction.id = transaction.statements.take place)
    (working : 0 < place → active transaction) :
    ∃ delay record after, transaction.session.execute statement.text server =
        (⟨delay, .ok (.ofAnswer (answerAt base turns transaction.id statement.command)), record⟩,
          after) ∧
      Stage batch admin base (turns ++ [⟨transaction, statement⟩])
        (fun other => if other.id = transaction.id then place + 1 < transaction.size
          else active other) after := by
  obtain ⟨number, connection, uses, work⟩ := stage.session transaction member
  obtain ⟨text, said⟩ := spoken.text statement (List.mem_of_getElem? next)
  have heard : statement.command = .ofText text := by rw [Statement.command, said]
  obtain ⟨left, performed, going⟩ := Engine.perform_statement ⟨server.database, connection.work⟩
    spoken said stage.database next before fun positive => work (working positive)
  have answered : server.engineAfter connection text =
      (answerAt base turns transaction.id statement.command,
        ⟨base.adding (committed base (turns ++ [⟨transaction, statement⟩])), left⟩) := by
    rw [← performed, heard]
    rfl
  obtain ⟨delay, record, after, executed, became⟩ :=
    Session.execute_became stage.calm uses text
  rw [answered] at executed became
  refine ⟨delay, record, after, by rw [said]; exact executed, ?_⟩
  refine stage.of_became apart member uses became ?_ ?_
  · intro works
    exact going (by simpa using works)
  · intro other inside different works
    have apartIds : other.id ≠ transaction.id := fun same =>
      different (numbered.eq_of_id inside member same)
    have notOwn : (Turn.mk transaction statement).isOf other.id = false :=
      (numbered.id_isWhole member).not_alike (numbered.id_isWhole inside) apartIds.symm
    exact ⟨by simpa [apartIds] using works, workAt_append_other notOwn⟩

/-- A transaction that is rolled back is not active any more. -/
theorem rollback (stage : Stage batch admin base turns active server) (apart : batch.Apart admin)
    (member : transaction ∈ batch) :
    ∃ delay record after, transaction.session.execute (.text Bench.rollbackText) server =
        (⟨delay, .ok {}, record⟩, after) ∧
      Stage batch admin base turns (fun other => other ≠ transaction ∧ active other) after := by
  obtain ⟨number, connection, uses, work⟩ := stage.session transaction member
  have answered : server.engineAfter connection Bench.rollbackText =
      (.ok none, ⟨base.adding (committed base turns), none⟩) := by
    rw [Server.engineAfter, Engine.execute, Bench.rollbackText, Command.ofText_rollback,
      ← stage.database]
    rfl
  obtain ⟨delay, record, after, executed, became⟩ :=
    Session.execute_became stage.calm uses Bench.rollbackText
  rw [answered] at executed became
  refine ⟨delay, record, after, executed, ?_⟩
  refine stage.of_became apart member uses became ?_ ?_
  · exact fun works => absurd rfl works.1
  · exact fun other inside different works => ⟨works.2, rfl⟩

end Stage

end SerialCheck

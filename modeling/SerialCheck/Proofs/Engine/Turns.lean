import SerialCheck.Proofs.Engine.Commands
import SerialCheck.Proofs.Engine.Tables
import SerialCheck.Proofs.Numbered

/-!
# Turns

The statements that the transactions of a run have sent, in order, determine what the engine holds:
the rows that are committed (`committed`), and for each open transaction its snapshot and the rows
that it has added (`workAt`). They also determine the answer to the next statement (`answerAt`). The
names of the tables are those of the database at the beginning of the run, its base.
-/
namespace SerialCheck

/-- A statement that a transaction sends. -/
structure Turn where
  /-- The transaction. -/
  transaction : OpenTransaction
  /-- The statement. -/
  statement : Statement

/-- The turn is of the transaction with a number. -/
def Turn.isOf (turn : Turn) (id : Value) : Bool := turn.transaction.id.alike id

namespace Statement

variable (base : Database) (statement : Statement)

/-- The rows that a statement adds: one that holds its text, if it writes to a known table. -/
def rows : TableRows :=
  match statement.command with
  | .write name => if base.Knows name then [(name, .row [statement.text])] else []
  | _ => []

/-- The statement reads or writes a known table, and so takes a snapshot if there is none. -/
def touches : Bool :=
  match statement.command with
  | .write name => decide (base.Knows name)
  | .read name => decide (base.Knows name)
  | _ => false

variable {base : Database} {statement : Statement}

theorem knows_of_mem_rows {entry : String × Value} (member : entry ∈ statement.rows base) :
    base.Knows entry.1 := by
  unfold rows at member
  split at member
  · split at member
    · rw [List.mem_singleton.1 member]
      assumption
    · cases member
  · cases member

theorem rows_of_not_touches (idle : statement.touches base = false) : statement.rows base = [] := by
  unfold touches at idle
  unfold rows
  split
  next name written =>
    rw [written] at idle
    exact if_neg (of_decide_eq_false idle)
  · rfl

end Statement

/-- The rows that statements add, in order. -/
def rowsOf (base : Database) (statements : List Statement) : TableRows :=
  statements.flatMap (Statement.rows base)

/-- The rows that a transaction adds with all its statements. -/
def Transaction.rows (base : Database) (transaction : Transaction) : TableRows :=
  rowsOf base transaction.statements

/-- The statements of one transaction among turns. -/
def statementsOf (turns : List Turn) (id : Value) : List Statement :=
  (turns.filter (·.isOf id)).map Turn.statement

variable (base : Database) (turns : List Turn) (id : Value)

/-- The rows that have been committed, in order. -/
def committed : TableRows :=
  turns.flatMap fun turn =>
    if turn.statement.command = .commit then turn.transaction.rows base else []

/-- The turns before a transaction took its snapshot; all of them if it has not. -/
def beforeSnapshot : List Turn :=
  turns.takeWhile fun turn => !(turn.isOf id && turn.statement.touches base)

/-- The open transaction as the engine keeps it. -/
def workAt : Work where
  snapshot :=
    if (statementsOf turns id).any (Statement.touches base) then
      some (base.adding (committed base (beforeSnapshot base turns id))).snapshot
    else none
  pending := rowsOf base (statementsOf turns id)

/-- The rows of a known table that a transaction sees: those at the beginning, those that were
committed before its snapshot, and its own. -/
def rowsSeen (table : StoredTable) : Rows :=
  table.rows ++ rowsFor table.name (committed base (beforeSnapshot base turns id)) ++
    rowsFor table.name (rowsOf base (statementsOf turns id))

/-- The answer to a command of a transaction. -/
def answerAt : Command → Answer
  | .read name =>
    match base.table? name with
    | none => .error (Database.missingReport name)
    | some table => .ok (some (rowsSeen base turns id table))
  | .write name =>
    if base.Knows name then .ok none else .error (Database.missingReport name)
  | _ => .ok none

variable {base turns id}

theorem answerAt_read {name : String} {table : StoredTable} (found : base.table? name = some table) :
    answerAt base turns id (.read name) = .ok (some (rowsSeen base turns id table)) := by
  simp only [answerAt, found]

theorem answerAt_read_unknown {name : String} (missing : base.table? name = none) :
    answerAt base turns id (.read name) = .error (Database.missingReport name) := by
  simp only [answerAt, missing]

theorem answerAt_write {name : String} (known : base.Knows name) :
    answerAt base turns id (.write name) = .ok none := if_pos known

theorem answerAt_write_unknown {name : String} (missing : ¬ base.Knows name) :
    answerAt base turns id (.write name) = .error (Database.missingReport name) := if_neg missing

/-- Only what is read depends on the turns. -/
theorem answerAt_congr {first second : List Turn} {command : Command}
    (same : ∀ name table, command = .read name → base.table? name = some table →
      rowsSeen base first id table = rowsSeen base second id table) :
    answerAt base first id command = answerAt base second id command := by
  cases command with
  | read name =>
    cases present : base.table? name with
    | none => rw [answerAt_read_unknown present, answerAt_read_unknown present]
    | some table =>
      rw [answerAt_read present, answerAt_read present, same name table rfl present]
  | _ => rfl

theorem knows_of_mem_rowsOf {statements : List Statement} {entry : String × Value}
    (member : entry ∈ rowsOf base statements) : base.Knows entry.1 := by
  obtain ⟨statement, _, inside⟩ := List.mem_flatMap.1 member
  exact Statement.knows_of_mem_rows inside

theorem knows_of_mem_committed {entry : String × Value} (member : entry ∈ committed base turns) :
    base.Knows entry.1 := by
  obtain ⟨turn, _, inside⟩ := List.mem_flatMap.1 member
  split at inside
  · exact knows_of_mem_rowsOf inside
  · cases inside

theorem committed_append (first second : List Turn) :
    committed base (first ++ second) = committed base first ++ committed base second :=
  List.flatMap_append

theorem statementsOf_append (first second : List Turn) :
    statementsOf (first ++ second) id = statementsOf first id ++ statementsOf second id := by
  simp [statementsOf, List.filter_append]

theorem mem_statementsOf {turn : Turn} (inside : turn ∈ turns) (own : turn.isOf id = true) :
    turn.statement ∈ statementsOf turns id := List.mem_map_of_mem (List.mem_filter.2 ⟨inside, own⟩)

theorem statementsOf_singleton {turn : Turn} (own : turn.isOf id = true) :
    statementsOf [turn] id = [turn.statement] := by
  simp [statementsOf, own]

theorem statementsOf_singleton_other {turn : Turn} (other : turn.isOf id = false) :
    statementsOf [turn] id = [] := by
  simp [statementsOf, other]

/-- A transaction that has touched no table has no snapshot, so that all turns are before it. -/
theorem beforeSnapshot_of_idle (idle : (statementsOf turns id).any (Statement.touches base) = false) :
    beforeSnapshot base turns id = turns := by
  refine List.takeWhile_eq_self_iff.2 fun turn member => ?_
  cases own : turn.isOf id with
  | false => rfl
  | true =>
    have untouched := List.any_eq_false.1 idle turn.statement (mem_statementsOf member own)
    simpa using untouched

/-- A snapshot that was taken is not taken again. -/
theorem beforeSnapshot_append (first second : List Turn)
    (taken : (statementsOf first id).any (Statement.touches base) = true) :
    beforeSnapshot base (first ++ second) id = beforeSnapshot base first id := by
  obtain ⟨statement, member, touching⟩ := List.any_eq_true.1 taken
  obtain ⟨turn, held, rfl⟩ := List.mem_map.1 member
  obtain ⟨inside, own⟩ := List.mem_filter.1 held
  rw [beforeSnapshot, List.takeWhile_append, if_neg]
  · rfl
  · intro all
    have whole := List.takeWhile_eq_self_iff.1 ((List.takeWhile_prefix _).eq_of_length all) turn
      inside
    simp [own, touching] at whole

/-- The snapshot of a transaction is taken before its first statement on a known table. -/
theorem beforeSnapshot_append_touching {first : List Turn} {turn : Turn} (own : turn.isOf id = true)
    (touching : turn.statement.touches base = true) (rest : List Turn) :
    beforeSnapshot base (first ++ turn :: rest) id = beforeSnapshot base first id := by
  have cut : first ++ turn :: rest = (first ++ [turn]) ++ rest := by simp
  have taken : (statementsOf (first ++ [turn]) id).any (Statement.touches base) = true := by
    simp [statementsOf_append, statementsOf_singleton own, touching]
  rw [cut, beforeSnapshot_append _ _ taken]
  unfold beforeSnapshot
  rw [List.takeWhile_append]
  split
  next whole =>
    rw [(List.takeWhile_prefix _).eq_of_length whole]
    simp [own, touching]
  · rfl

/-- A turn of another transaction changes nothing about the work of a transaction. -/
theorem workAt_append_other {turn : Turn} (other : turn.isOf id = false) :
    workAt base (turns ++ [turn]) id = workAt base turns id := by
  unfold workAt
  rw [statementsOf_append, statementsOf_singleton_other other, List.append_nil]
  split
  next taken => rw [beforeSnapshot_append _ _ taken]
  · rfl

namespace Database.Matches

variable {base other : Database} (same : base.Matches other)

include same

/-- Turns mean the same on matching databases. -/
theorem statement_eq : Statement.rows other = Statement.rows base ∧
    Statement.touches other = Statement.touches base := by
  obtain ⟨tables, stray, layouts⟩ := base
  obtain ⟨others, lost, columns⟩ := other
  obtain rfl : others = tables := same.tables
  exact ⟨rfl, rfl⟩

theorem committed_eq (turns : List Turn) : committed other turns = committed base turns := by
  simp only [committed, Transaction.rows, rowsOf, same.statement_eq.1]

theorem beforeSnapshot_eq (turns : List Turn) (id : Value) :
    beforeSnapshot other turns id = beforeSnapshot base turns id := by
  simp only [beforeSnapshot, same.statement_eq.2]

theorem answerAt_eq (turns : List Turn) (id : Value) (command : Command) :
    answerAt other turns id command = answerAt base turns id command := by
  unfold answerAt
  simp only [same.table?_eq, same.knows_iff, rowsSeen, same.beforeSnapshot_eq, same.committed_eq,
    rowsOf, same.statement_eq.1]

/-- Rows make the same of matching databases. -/
theorem table?_adding_eq {rows : TableRows} (known : ∀ entry ∈ rows, base.Knows entry.1)
    (name : String) : (other.adding rows).table? name = (base.adding rows).table? name := by
  have there : ∀ entry ∈ rows, other.Knows entry.1 := fun entry member =>
    (same.knows_iff entry.1).2 (known entry member)
  rw [table?_adding there, table?_adding known, same.table?_eq]

end Database.Matches

end SerialCheck

import SerialCheck.Statement

/-!
# Transactions

A transaction opens with a `BEGIN`, continues with data statements and ends with a `COMMIT` or
a `ROLLBACK`; the type admits nothing else. `ofStatements?` accepts exactly the lists of this
form (`statements_ofStatements`).
-/
namespace SerialCheck

/-- A list of statements of the form of a transaction. -/
structure Transaction where
  /-- What the transaction is known by. -/
  id : Value
  /-- The opening statement. -/
  opening : Statement
  /-- The data statements. -/
  data : List Statement
  /-- The closing statement. -/
  closing : Statement
  /-- The first statement opens the transaction. -/
  opens : opening.kind = .begin
  /-- No statement between the first and the last one is a control statement. -/
  dataOnly : ∀ statement ∈ data, statement.kind.isControl = false
  /-- The last statement ends the transaction. -/
  closes : closing.kind.isTerminal = true

namespace Transaction

/-- Why a list of statements is not a transaction. -/
inductive StructureError where
  /-- There is no room for both an opening and a closing statement. -/
  | tooShort
  /-- The first statement is of another kind. -/
  | badOpening (kind : StatementKind)
  /-- The last statement is of another kind. -/
  | badClosing (kind : StatementKind)
  /-- A statement in between is a control statement. -/
  | badInterior (kind : StatementKind)
  deriving Repr, DecidableEq

/-- The description of a structure error. -/
def StructureError.message : StructureError → String
  | .tooShort => "A transaction needs at least an opening and a closing statement"
  | .badOpening kind => s!"First statement must be BEGIN, got {kind.name}"
  | .badClosing kind => s!"Last statement must be COMMIT or ROLLBACK, got {kind.name}"
  | .badInterior kind => s!"Interior statement must be a data statement, got {kind.name}"

/-- The transaction made of an opening statement, statements in between and a closing one. -/
def assemble (id : Value) (opening : Statement) (data : List Statement) (closing : Statement) :
    Except StructureError Transaction :=
  if opens : opening.kind = .begin then
    if closes : closing.kind.isTerminal = true then
      match found : data.find? (·.kind.isControl) with
      | some statement => .error (.badInterior statement.kind)
      | none =>
        .ok ⟨id, opening, data, closing, opens,
          fun statement member => by simpa using List.find?_eq_none.1 found statement member,
          closes⟩
    else .error (.badClosing closing.kind)
  else .error (.badOpening opening.kind)

/-- The transaction made of a list of statements. -/
def ofStatements? (id : Value) : List Statement → Except StructureError Transaction
  | [] => .error .tooShort
  | [_] => .error .tooShort
  | opening :: second :: rest =>
    assemble id opening ((second :: rest).dropLast)
      ((second :: rest).getLast (List.cons_ne_nil second rest))

/-- All statements in order. -/
def statements (transaction : Transaction) : List Statement :=
  transaction.opening :: transaction.data ++ [transaction.closing]

/-- The number of statements. -/
def size (transaction : Transaction) : Nat := transaction.statements.length

/-- The statements as a script. -/
def script (transaction : Transaction) : String :=
  "\n".intercalate (transaction.statements.map fun statement => statement.text.plain ++ ";")

/-- The text by which a transaction is shown. -/
def summary (transaction : Transaction) : String :=
  s!"Transaction(tx_id={transaction.id.plain}, statements={transaction.size})"

/-- The statements of an accepted list are that list. -/
theorem statements_ofStatements {id : Value} {given : List Statement} {transaction : Transaction}
    (accepted : ofStatements? id given = .ok transaction) :
    transaction.id = id ∧ transaction.statements = given := by
  match given with
  | [] => simp [ofStatements?] at accepted
  | [_] => simp [ofStatements?] at accepted
  | opening :: second :: rest =>
    simp only [ofStatements?, assemble] at accepted
    split at accepted
    · split at accepted
      · split at accepted
        · cases accepted
        · cases accepted
          exact ⟨rfl, congrArg (opening :: ·) (List.dropLast_concat_getLast _)⟩
      · cases accepted
    · cases accepted

end Transaction

end SerialCheck

import SerialCheck.Exchange.Member

/-!
# Statements and transactions in documents

A statement names its transaction, its place, its kind and its text. A transaction is given by
its data statements, which are numbered from one on; an opening and a closing statement are put
around them. Only kinds have to be ones that exist; all else is kept as it is.
-/
namespace SerialCheck

/-- The kind of statement that a document names. -/
def StatementKind.ofJson (document : Json) : Exchange StatementKind :=
  match (document.text?).bind ofName? with
  | some kind => .ok kind
  | none => .error (.statementKind (Value.verbatim document).literal)

/-- The kind of statement that a value names as a member of the family of kinds. -/
def StatementKind.ofValue (value : Value) : Exchange StatementKind := do
  if let some cause := value.unfit? then throw (.misuse cause)
  match value with
  | .text name =>
    match ofName? name with
    | some kind => return kind
    | none => throw (.unknownName (Text.quoted name))
  | value => throw (.unknownName value.literal)

/-- The members of a list without those that are equal to an earlier one. -/
def distinctValues (values : List Value) : List Value :=
  values.foldl (fun found value => if found.any value.same then found else found ++ [value]) []

/-- The members of a list of errors, which have to be fit for members of a set. -/
def expectedMembers (listed : Value) : Except Misuse (List Value) := do
  let values ← if listed.isFilled then listed.each else return []
  match Value.unfitMember? values with
  | some cause => throw cause
  | none => return values

/-- The errors that a value lists and, if they are not texts, what is listed instead. -/
def expectedOf (listed : Value) : Except Misuse (ExpectedErrors × List Value) := do
  let values ← expectedMembers listed
  match Value.texts values with
  | .ok patterns => return (.ofList patterns, [])
  | .error _ => return (.none, ← sortChecked Value.isBelow (distinctValues values))

/-- The errors that a member of an object lists. -/
def expectedIn (document : Json) (name : String) : Exchange (ExpectedErrors × List Value) :=
  Exchange.use (expectedOf (document.valueIn name .null))

/-- The statement that a document describes. -/
def Statement.ofJson (document : Json) : Exchange Statement := do
  let transaction ← document.need "tx_id"
  let index ← document.need "index"
  let kind ← StatementKind.ofJson (← document.need "type")
  let text ← document.need "text"
  let (expected, strays) ← expectedIn document "expected_errors"
  return ⟨.verbatim transaction, .verbatim index, kind, .verbatim text, expected, strays⟩

/-- The statement that a document describes or whose place among given ones it is. -/
def Statement.ofReference (given : List Statement) (document : Json) : Exchange Statement :=
  match (Value.verbatim document).count with
  | .ok place => ((memberAt? given place).map .ok).getD (.error .place)
  | .error _ => Statement.ofJson document

namespace Transaction

/-- The two members of a pair. -/
def pairOf (value : Value) : Exchange (Value × Value) := do
  match ← Exchange.use value.members with
  | [first, second] => return (first, second)
  | members => throw (.misuse (.members 2 members.length))

/-- The data statements that pairs of a kind and a text describe, numbered from the place on. -/
def dataOf (id : Value) (expected : ExpectedErrors) (strays : List Value) :
    Int → List Value → Exchange (List Statement)
  | _, [] => .ok []
  | place, pair :: pairs => do
    let (kind, text) ← pairOf pair
    let statement : Statement :=
      ⟨id, .integer place, ← StatementKind.ofValue kind, text, expected, strays⟩
    return statement :: (← dataOf id expected strays (place + 1) pairs)

/-- The transaction that a document describes. -/
def ofJson (document : Json) : Exchange Transaction := do
  let id := Value.verbatim (← document.need "tx_id")
  let (expected, strays) ← expectedIn document "expected"
  let opening := document.valueIn "begin" (.text "BEGIN")
  let pairs ← Exchange.use (Value.verbatim (← document.need "data")).each
  let data ← dataOf id expected strays 1 pairs
  let ending := document.valueIn "end" (.text "COMMIT")
  let kind ← StatementKind.ofValue ending
  let first : Statement := ⟨id, .integer 0, .begin, opening, .none, []⟩
  let last : Statement := ⟨id, .integer (data.length + 1), kind, ending, .none, []⟩
  match ofStatements? id (first :: data ++ [last]) with
  | .ok transaction => return transaction
  | .error cause => throw (.transaction cause)

end Transaction

end SerialCheck

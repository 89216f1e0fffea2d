import Mathlib.Data.List.TakeWhile
import SerialCheck.Server.Engine
import SerialCheck.Transaction
import SerialCheck.Bench.Setup

/-!
# The commands of generated texts

What the engine does on receiving a text is decided by how the text begins, and for a reading text by
what follows its first `FROM`. Here stands which commands the texts of generated transactions and of
the setup stand for, and the property `Transaction.Spoken` that is all the other modules use of it.
-/
namespace SerialCheck

namespace Text

/-- Whether a text begins with a pattern is decided by its characters. -/
theorem startsWith_append (front back pattern : String) :
    startsWith (front ++ back) pattern =
      pattern.toList.isPrefixOf (front.toList ++ back.toList) := by
  rw [startsWith, String.toList_append]

/-- What follows a segment is found if the segment is. -/
theorem afterSegment?_isSome {pattern text : List Char} (found : hasSegment pattern text = true) :
    (afterSegment? pattern text).isSome = true := by
  induction text with
  | nil =>
    have empty : pattern.isEmpty = true := found
    simp [afterSegment?, empty]
  | cons head tail hypothesis =>
    unfold afterSegment?
    split
    · rfl
    next later =>
      simp only [hasSegment, later, Bool.false_or] at found
      exact hypothesis found

end Text

/-- A name that the engine reads to its end. -/
def IsPlainName (name : String) : Prop := ∀ char ∈ name.toList, (char != ' ' && char != '(') = true

namespace Command

/-- A plain name is read to its end. -/
theorem nameAt_plain {name : String} (plain : IsPlainName name) : nameAt name.toList = name := by
  rw [nameAt, List.takeWhile_eq_self_iff.2 plain, String.ofList_toList]

/-- A plain name is read up to a space. -/
theorem nameAt_before_space {name : String} (plain : IsPlainName name) (rest : List Char) :
    nameAt (name.toList ++ ' ' :: rest) = name := by
  rw [nameAt, List.takeWhile_append_of_pos plain, List.takeWhile_cons_of_neg (by decide),
    List.append_nil, String.ofList_toList]

/-- What the engine reads as a name is plain. -/
theorem isPlainName_nameAt (chars : List Char) : IsPlainName (nameAt chars) := by
  intro char member
  rw [nameAt, String.toList_ofList] at member
  simpa using List.mem_takeWhile_imp member

/-- The name of a table that is created is plain. -/
theorem isPlainName_of_create {text name : String} (created : ofText text = .create name) :
    IsPlainName name := by
  have reading : ofReading text ≠ .create name := by
    unfold ofReading
    split
    · split <;> exact Command.noConfusion
    · exact Command.noConfusion
  have after : ∀ keyword, nameAfter? keyword text = some name → IsPlainName name := by
    intro keyword found
    unfold nameAfter? at found
    split at found
    · cases found
      exact isPlainName_nameAt _
    · cases found
  unfold ofText at created
  cases found : nameAfter? "CREATE TABLE " text with
  | some table =>
    simp only [found] at created
    split at created
    · cases created
    · cases created
      exact after _ found
  | none =>
    simp only [found] at created
    split at created
    · cases created
    · split at created
      next impossible => cases impossible
      · cases created
      · cases created
      · split at created
        · cases created
        · split at created
          · cases created
          · split at created
            · cases created
            · exact absurd created reading

-- The literal is compared with its list of characters, which is quicker than taking it apart.
set_option maxRecDepth 4000 in
/-- The query for the catalog begins with a line end. -/
theorem schemaQuery_eq : ∃ rest, schemaQuery = String.ofList ('\n' :: rest) := ⟨_, rfl⟩

/-- The first character of the query for the catalog. -/
theorem schemaQuery_head : schemaQuery.toList.head? = some '\n' := by
  obtain ⟨rest, cut⟩ := schemaQuery_eq
  rw [cut, String.toList_ofList]
  rfl

/-- A text with another first character is no query for the catalog. -/
theorem ofText_append {front : String} (begins : front.toList.head?.any (· != '\n') = true)
    (back : String) :
    let text := front ++ back
    ofText text =
      match nameAfter? "CREATE TABLE " text, nameAfter? "DROP TABLE IF EXISTS " text,
          writeKeywords.findSome? (nameAfter? · text) with
      | some table, _, _ => .create table
      | none, some table, _ => .drop table
      | none, none, some table => .write table
      | none, none, none =>
        if Text.startsWith text "BEGIN" || Text.startsWith text "START TRANSACTION" then .begin
        else if text == "COMMIT" then .commit
        else if text == "ROLLBACK" then .rollback
        else ofReading text := by
  intro text
  have apart : (text == schemaQuery) = false := by
    rw [beq_eq_false_iff_ne]
    intro same
    obtain ⟨first, head, other⟩ := (Option.any_eq_true _ _).1 begins
    have heads := congrArg (·.toList.head?) same
    simp only [text, String.toList_append, List.head?_append, head, Option.some_or,
      schemaQuery_head, Option.some.injEq] at heads
    rw [heads] at other
    cases other
  unfold ofText
  rw [apart]
  rfl

/-- The name after a keyword, for a text that is cut behind its beginning. -/
theorem nameAfter?_append (keyword front back : String) :
    nameAfter? keyword (front ++ back) =
      if keyword.toList.isPrefixOf (front.toList ++ back.toList) then
        some (nameAt ((front.toList ++ back.toList).drop keyword.toList.length))
      else none := by
  rw [nameAfter?, Text.startsWith_append, String.toList_append]

/-- A text with a keyword of a writing statement in front writes the table named behind it. -/
theorem ofText_insert (rest : String) :
    ofText ("INSERT INTO " ++ rest) = .write (nameAt rest.toList) := by
  rw [ofText_append (by decide)]
  simp only [writeKeywords, List.findSome?_cons, nameAfter?_append]
  rfl

/-- So does one that updates. -/
theorem ofText_update (rest : String) :
    ofText ("UPDATE " ++ rest) = .write (nameAt rest.toList) := by
  rw [ofText_append (by decide)]
  simp only [writeKeywords, List.findSome?_cons, nameAfter?_append]
  rfl

/-- So does one that deletes. -/
theorem ofText_delete (rest : String) :
    ofText ("DELETE FROM " ++ rest) = .write (nameAt rest.toList) := by
  rw [ofText_append (by decide)]
  simp only [writeKeywords, List.findSome?_cons, nameAfter?_append]
  rfl

/-- A text that creates a table stands for that. -/
theorem ofText_create (rest : String) :
    ofText ("CREATE TABLE " ++ rest) = .create (nameAt rest.toList) := by
  rw [ofText_append (by decide)]
  simp only [nameAfter?_append]
  rfl

/-- A text that drops a table stands for that. -/
theorem ofText_drop (rest : String) :
    ofText ("DROP TABLE IF EXISTS " ++ rest) = .drop (nameAt rest.toList) := by
  rw [ofText_append (by decide)]
  simp only [writeKeywords, List.findSome?_cons, nameAfter?_append]
  rfl

/-- A text that begins with an opening word opens a transaction. -/
theorem ofText_opening {words : String} (opening : words = "BEGIN" ∨ words = "START TRANSACTION")
    (rest : String) : ofText (words ++ rest) = .begin := by
  rcases opening with rfl | rfl
  · rw [ofText_append (by decide)]
    simp only [writeKeywords, List.findSome?_cons, nameAfter?_append, Text.startsWith_append]
    rfl
  · rw [ofText_append (by decide)]
    simp only [writeKeywords, List.findSome?_cons, nameAfter?_append, Text.startsWith_append]
    rfl

/-- The text that ends a transaction and keeps its rows. -/
theorem ofText_commit : ofText "COMMIT" = .commit := by decide +kernel

/-- The text that ends a transaction and drops its rows. -/
theorem ofText_rollback : ofText "ROLLBACK" = .rollback := by decide +kernel

/-- The query for the catalog. -/
theorem ofText_schemaQuery : ofText schemaQuery = .catalog := by
  unfold ofText
  rw [beq_self_eq_true]
  rfl

/-- A text that sets something does nothing else. -/
theorem ofText_set (rest : String) : ofText ("SET " ++ rest) = .other := by
  have apart : ∀ word : String, word.toList.head? ≠ some 'S' → ("SET " ++ rest == word) = false := by
    intro word head
    rw [beq_eq_false_iff_ne]
    rintro rfl
    exact head (by rw [String.toList_append]; rfl)
  rw [ofText_append (by decide),
    apart "COMMIT" (by decide), apart "ROLLBACK" (by decide)]
  simp only [writeKeywords, List.findSome?_cons, nameAfter?_append, Text.startsWith_append,
    ofReading]
  rfl

/-- A text that selects is read as such. -/
theorem ofText_select (rest : String) :
    ofText ("SELECT " ++ rest) =
      match Text.afterSegment? " FROM ".toList ("SELECT ".toList ++ rest.toList) with
      | some behind => .read (nameAt behind)
      | none => .other := by
  have apart : ∀ word : String, word.toList.head? ≠ some 'S' →
      ("SELECT " ++ rest == word) = false := by
    intro word head
    rw [beq_eq_false_iff_ne]
    rintro rfl
    exact head (by rw [String.toList_append]; rfl)
  rw [ofText_append (by decide),
    apart "COMMIT" (by decide), apart "ROLLBACK" (by decide)]
  simp only [writeKeywords, List.findSome?_cons, nameAfter?_append, Text.startsWith_append,
    ofReading, String.toList_append]
  rfl

/-- A text that selects something from somewhere reads a table. -/
theorem ofText_select_from (columns rest : String) :
    ∃ name, ofText ("SELECT " ++ (columns ++ " FROM " ++ rest)) = .read name := by
  have found : Text.hasSegment " FROM ".toList
      ("SELECT ".toList ++ (columns ++ " FROM " ++ rest).toList) = true := by
    refine Text.hasSegment_iff.2 ⟨"SELECT ".toList ++ columns.toList, rest.toList, ?_⟩
    simp only [String.toList_append, List.append_assoc]
  obtain ⟨behind, met⟩ := Option.isSome_iff_exists.1 (Text.afterSegment?_isSome found)
  rw [ofText_select, met]
  exact ⟨_, rfl⟩

/-- The text that reads a whole table with a plain name reads that table. -/
theorem ofText_readText {name : String} (plain : IsPlainName name) :
    ofText (Bench.readText name) = .read name := by
  have cut : Bench.readText name = "SELECT " ++ ("* FROM " ++ name) := by
    rw [Bench.readText, ← String.append_assoc]
    rfl
  have behind : Text.afterSegment? " FROM ".toList
      ("SELECT ".toList ++ ("* FROM " ++ name).toList) = some name.toList := by
    rw [String.toList_append]
    rfl
  rw [cut, ofText_select, behind]
  exact congrArg Command.read (nameAt_plain plain)

/-- The text that drops a table with a plain name drops that table. -/
theorem ofText_dropText {name : String} (plain : IsPlainName name) :
    ofText (Bench.dropText name) = .drop name := by
  have cut : Bench.dropText name = "DROP TABLE IF EXISTS " ++ (name ++ " CASCADE") :=
    String.append_assoc
  have read : nameAt (name ++ " CASCADE").toList = name := by
    have chars : " CASCADE".toList = ' ' :: "CASCADE".toList := by decide
    rw [String.toList_append, chars, nameAt_before_space plain]
  rw [cut, ofText_drop, read]

end Command

/-- What the engine does on receiving a statement. -/
def Statement.command (statement : Statement) : Command :=
  match statement.text with
  | .text text => .ofText text
  | _ => .other

/-- The statements of the transaction mean to the engine what their kinds say. -/
structure Transaction.Spoken (transaction : Transaction) : Prop where
  /-- Every statement has a text. -/
  text : ∀ statement ∈ transaction.statements, ∃ text, statement.text = .text text
  /-- The first statement opens a transaction. -/
  opening : transaction.opening.command = .begin
  /-- A reading statement reads a table. -/
  read : ∀ statement ∈ transaction.data, statement.kind.returnsRows = true →
    ∃ name, statement.command = .read name
  /-- Any other data statement writes to a table. -/
  write : ∀ statement ∈ transaction.data, statement.kind.returnsRows = false →
    ∃ name, statement.command = .write name
  /-- The last statement ends the transaction as its kind says. -/
  closing : transaction.closing.command =
    if transaction.closing.kind = .commit then .commit else .rollback
  /-- The errors that the statements behind the first one expect are texts. -/
  strays : ∀ statement ∈ transaction.data ++ [transaction.closing], statement.strays = []

end SerialCheck

import SerialCheck.Proofs.Generated.Batches
import SerialCheck.Proofs.Interleaved.Prompt

/-!
# Statements about known tables

The names of tables and columns stand in the texts of the statements as they are. The engine reads the name
of a table up to a space or an opening parenthesis, and in a reading text it reads the name behind the first
FROM. So a statement that is drawn is about a table of the schema if that has a plain name
(`Schema.KnownTo`) and the word FROM stands in no name of a column (`Schema.Clear`), and else it may be about
another table or none.
-/
namespace SerialCheck

namespace Text

/-- What begins a list and does not hold a character ends in front of it. -/
theorem prefix_of_prefix_append_cons {pattern right : List Char} {char : Char} (left : List Char)
    (apart : char ∉ pattern) (begins : pattern <+: left ++ char :: right) : pattern <+: left := by
  have longer : left ++ [char] <+: left ++ char :: right := ⟨right, by simp⟩
  rcases List.prefix_or_prefix_of_prefix begins longer with inside | beyond
  · refine (List.prefix_concat_iff.1 inside).resolve_left fun same => apart ?_
    simp [same]
  · exact absurd (beyond.subset (by simp)) apart

/-- A segment is not found across a character that it does not hold. -/
theorem hasSegment_append_cons {pattern left right : List Char} {char : Char} (apart : char ∉ pattern)
    (before : hasSegment pattern left = false) (behind : hasSegment pattern right = false) :
    hasSegment pattern (left ++ char :: right) = false := by
  induction left with
  | nil =>
    rw [List.nil_append, hasSegment, Bool.or_eq_false_iff]
    refine ⟨Bool.eq_false_iff.2 fun begins => ?_, behind⟩
    have nothing := List.prefix_nil.1
      (prefix_of_prefix_append_cons [] apart (List.isPrefixOf_iff_prefix.1 begins))
    rw [nothing] at before
    cases before
  | cons head tail hypothesis =>
    rw [hasSegment, Bool.or_eq_false_iff] at before
    rw [List.cons_append, hasSegment, Bool.or_eq_false_iff]
    refine ⟨Bool.eq_false_iff.2 fun begins => Bool.eq_false_iff.1 before.1 ?_, hypothesis before.2⟩
    exact List.isPrefixOf_iff_prefix.2
      (prefix_of_prefix_append_cons (head :: tail) apart (List.isPrefixOf_iff_prefix.1 begins))

/-- What is found in a part is found in the whole. -/
theorem hasSegment_of_append {pattern left right : List Char}
    (whole : hasSegment pattern (left ++ right) = false) : hasSegment pattern left = false := by
  rw [Bool.eq_false_iff] at whole ⊢
  intro found
  obtain ⟨front, back, rfl⟩ := hasSegment_iff.1 found
  exact whole (hasSegment_iff.2 ⟨front, back ++ right, List.append_assoc _ _ _⟩)

/-- Behind characters in which ` FROM ` is not found, the first place where it is found is that at which it
is put. -/
theorem afterSegment?_from {chars : List Char}
    (clear : hasSegment " FROM ".toList (chars ++ [' ']) = false) (rest : List Char) :
    afterSegment? " FROM ".toList (chars ++ (" FROM ".toList ++ rest)) = some rest := by
  induction chars with
  | nil => rfl
  | cons head tail hypothesis =>
    have word : " FROM ".toList = [' ', 'F', 'R', 'O', 'M', ' '] := by decide
    simp only [List.cons_append, hasSegment, Bool.or_eq_false_iff] at clear
    -- the only overlap of the word with itself is the space at either end
    have elsewhere : " FROM ".toList.isPrefixOf (head :: (tail ++ (" FROM ".toList ++ rest))) = false := by
      refine Bool.eq_false_iff.2 fun found => Bool.eq_false_iff.1 clear.1 ?_
      rw [word] at found ⊢
      rcases tail with _ | ⟨_, _ | ⟨_, _ | ⟨_, _ | ⟨_, _ | ⟨_, _⟩⟩⟩⟩⟩ <;>
        simp [List.isPrefixOf] at found ⊢ <;> exact found
    rw [List.cons_append, afterSegment?, elsewhere]
    exact hypothesis clear.2

end Text

namespace Value

/-- The texts that are read from a list are members of it. -/
theorem mem_of_textsFrom {place : Nat} {members : List Value} {names : List String}
    (read : textsFrom place members = .ok names) : ∀ name ∈ names, .text name ∈ members := by
  induction members generalizing place names with
  | nil =>
    cases read
    exact nofun
  | cons member members hypothesis =>
    cases member with
    | text value =>
      cases further : textsFrom (place + 1) members with
      | error cause =>
        rw [textsFrom, further] at read
        cases read
      | ok others =>
        rw [textsFrom, further] at read
        cases read
        intro name inside
        rcases List.mem_cons.1 inside with rfl | behind
        · exact List.mem_cons_self
        · exact List.mem_cons_of_mem _ (hypothesis further name behind)
    | _ => cases read

end Value

/-- A name in which the word FROM does not stand. -/
def IsClearName (name : String) : Prop :=
  Text.hasSegment " FROM ".toList (' ' :: (name.toList ++ [' '])) = false

namespace Command

/-- The text sets a name in front of it off: it is empty, or begins with a space or an opening
parenthesis. -/
def SetsOff (rest : String) : Prop := ∀ char ∈ rest.toList.head?, char = ' ' ∨ char = '('

theorem setsOff_empty : SetsOff "" := by
  intro char first
  cases first

/-- A plain name is read up to where it is set off. -/
theorem nameAt_append {name rest : String} (plain : IsPlainName name) (ends : SetsOff rest) :
    nameAt (name ++ rest).toList = name := by
  rw [String.toList_append]
  unfold SetsOff at ends
  cases chars : rest.toList with
  | nil => rw [List.append_nil, nameAt_plain plain]
  | cons char others =>
    rw [chars] at ends
    have stops : ¬ (char != ' ' && char != '(') = true := by
      rcases ends char rfl with rfl | rfl <;> decide
    have read : List.takeWhile (fun char => char != ' ' && char != '(') (char :: others) = [] :=
      List.takeWhile_cons_of_neg stops
    rw [nameAt, List.takeWhile_append_of_pos plain, read, List.append_nil, String.ofList_toList]

/-- A text that selects something without the word FROM reads the table behind it. -/
theorem ofText_select_clear {columns : String} (clear : IsClearName columns) (rest : String) :
    ofText ("SELECT " ++ (columns ++ " FROM " ++ rest)) = .read (nameAt rest.toList) := by
  have front : Text.hasSegment " FROM ".toList ("SELECT ".toList ++ columns.toList ++ [' ']) = false := by
    rw [List.append_assoc]
    exact clear
  have behind : Text.afterSegment? " FROM ".toList
      ("SELECT ".toList ++ (columns ++ " FROM " ++ rest).toList) = some rest.toList := by
    have found := Text.afterSegment?_from front rest.toList
    rwa [String.toList_append, String.toList_append, List.append_assoc columns.toList, ← List.append_assoc]
  rw [ofText_select, behind]

end Command

namespace DataStatement

/-- The word FROM stands in a list of names only if it stands in one of them. -/
theorem isClearName_commaList {names : List String} (clear : ∀ name ∈ names, IsClearName name) :
    IsClearName (commaList names) := by
  induction names with
  | nil => rfl
  | cons name names hypothesis =>
    have first := clear name List.mem_cons_self
    cases names with
    | nil =>
      rw [commaList, String.intercalate_singleton]
      exact first
    | cons next names =>
      have others := hypothesis fun other inside => clear other (List.mem_cons_of_mem _ inside)
      have cut : ' ' :: ((commaList (name :: next :: names)).toList ++ [' ']) =
          ' ' :: name.toList ++ ',' :: ' ' :: ((commaList (next :: names)).toList ++ [' ']) := by
        simp [commaList]
      rw [IsClearName, cut]
      exact Text.hasSegment_append_cons (by decide) (Text.hasSegment_of_append first) others

/-- The table that a statement is about. -/
def table : DataStatement → String
  | .insert table .. | .select table .. | .delete table .. | .update table .. => table

/-- The columns that stand in front of the table. -/
def fetched : DataStatement → List String
  | .select _ columns .. => columns.getD []
  | _ => []

/-- A condition sets off the name in front of it, as what follows the condition does if there is none. -/
theorem setsOff_renderCondition (condition : Option Predicate) {rest : String}
    (ends : Command.SetsOff rest) : Command.SetsOff (renderCondition condition ++ rest) := by
  cases condition with
  | none =>
    rw [renderCondition, String.empty_append]
    exact ends
  | some predicate =>
    intro char first
    rw [renderCondition, String.toList_append, String.toList_append, List.append_assoc] at first
    exact .inl (Option.some.inj first).symm

/-- A statement reads or writes the table that it is about, if that has a plain name and the word FROM does
not stand in front of it. -/
theorem command_render (statement : DataStatement) (plain : IsPlainName statement.table)
    (clear : ∀ name ∈ statement.fetched, IsClearName name) :
    Command.ofText statement.render = .write statement.table ∨
      Command.ofText statement.render = .read statement.table := by
  cases statement with
  | insert table columns rows =>
    left
    simp only [render, String.append_assoc]
    rw [Command.ofText_insert]
    refine congrArg Command.write (Command.nameAt_append plain ?_)
    intro char first
    rw [String.toList_append] at first
    exact .inr (Option.some.inj first).symm
  | select table columns condition locking =>
    right
    have listed : IsClearName (columns.elim "*" commaList) := by
      cases columns with
      | none => rfl
      | some names => exact isClearName_commaList clear
    have cut : render (.select table columns condition locking) = "SELECT " ++
        (columns.elim "*" commaList ++ " FROM " ++
          (table ++ (renderCondition condition ++ if locking then " FOR UPDATE" else ""))) := by
      simp only [render, String.append_assoc]
    have locks : Command.SetsOff (if locking then " FOR UPDATE" else "") := by
      cases locking
      · exact Command.setsOff_empty
      · exact fun char first => .inl (Option.some.inj first).symm
    rw [cut, Command.ofText_select_clear listed]
    exact congrArg Command.read (Command.nameAt_append plain (setsOff_renderCondition condition locks))
  | delete table condition =>
    left
    have ends : Command.SetsOff (renderCondition condition ++ "") :=
      setsOff_renderCondition condition Command.setsOff_empty
    rw [String.append_empty] at ends
    simp only [render, String.append_assoc]
    rw [Command.ofText_delete]
    exact congrArg Command.write (Command.nameAt_append plain ends)
  | update table assignments condition =>
    left
    simp only [render, String.append_assoc]
    rw [Command.ofText_update]
    refine congrArg Command.write (Command.nameAt_append plain ?_)
    intro char first
    rw [String.toList_append] at first
    exact .inl (Option.some.inj first).symm

/-- The statement is about a table, and the columns in front of it are columns of it. -/
structure Of (table : Table) (statement : DataStatement) : Prop where
  /-- It is about the table. -/
  about : statement.table = table.name
  /-- The columns are columns of it. -/
  fetched : ∀ name ∈ statement.fetched, ∃ column ∈ table.columns, column.key = .text name

open Attempt

/-- The names of columns are names of these columns. -/
theorem gives_columnNames (columns : List Column) :
    Gives (columnNames columns) fun names =>
      ∀ name ∈ names, ∃ column ∈ columns, column.key = .text name := by
  unfold columnNames
  split
  next names read =>
    refine gives_pure fun name inside => ?_
    exact List.mem_map.1 (Value.mem_of_textsFrom read name inside)
  next => exact gives_throw _ _

/-- A statement that is drawn for a table is about it. -/
theorem gives_drawInsert_of (table : Table) : Gives (drawInsert table) (·.Of table) := by
  refine (gives_any _).bind fun columns _ => (gives_any _).bind fun count _ => ?_
  refine (gives_any _).bind fun rows _ => (gives_any _).bind fun names _ => ?_
  exact gives_pure ⟨rfl, nofun⟩

theorem gives_drawSelect_of (locking : Bool) (table : Table) :
    Gives (drawSelect locking table) (·.Of table) := by
  have listed : Gives (drawFetch table.columns) fun columns => ∀ name ∈ columns.getD [],
      ∃ column ∈ table.columns, column.key = .text name := by
    refine (gives_any _).bind fun all _ => ?_
    split
    · exact gives_pure nofun
    · refine (gives_subset _).bind fun columns inside => (gives_columnNames _).bind fun names named => ?_
      refine gives_pure fun name member => ?_
      obtain ⟨column, chosen, key⟩ := named name member
      exact ⟨column, inside chosen, key⟩
  refine listed.bind fun columns named => (gives_any _).bind fun condition _ => ?_
  exact gives_pure ⟨rfl, named⟩

theorem gives_drawDelete_of (table : Table) : Gives (drawDelete table) (·.Of table) :=
  (gives_any _).bind fun _ _ => gives_pure ⟨rfl, nofun⟩

theorem gives_drawUpdate_of (table : Table) : Gives (drawUpdate table) (·.Of table) := by
  refine (gives_any _).bind fun columns _ => (gives_any _).bind fun assignments _ => ?_
  exact (gives_any _).bind fun condition _ => gives_pure ⟨rfl, nofun⟩

end DataStatement

open Attempt

/-- A data statement that is drawn over a schema is about one of its tables. -/
theorem gives_drawStatement_of (schema : Schema) (level : Value) {kind : StatementKind}
    (data : kind.isControl = false) :
    Gives (drawStatement schema level kind) fun query => ∃ table ∈ schema.tables,
      ∃ statement : DataStatement, statement.Of table ∧ query.text = .text statement.render := by
  have drawn {draw : Table → Attempt DataStatement} (about : ∀ table, Gives (draw table) (·.Of table)) :
      Gives (do return (← draw (← schema.randomTable)).query) fun query => ∃ table ∈ schema.tables,
        ∃ statement : DataStatement, statement.Of table ∧ query.text = .text statement.render := by
    refine schema.gives_randomTable.bind fun table member => (about table).bind fun statement of => ?_
    exact gives_pure ⟨table, member, statement, of, statement.query_text⟩
  cases kind with
  | insert => exact drawn DataStatement.gives_drawInsert_of
  | select => exact drawn (DataStatement.gives_drawSelect_of false)
  | selectForUpdate => exact drawn (DataStatement.gives_drawSelect_of true)
  | delete => exact drawn DataStatement.gives_drawDelete_of
  | update => exact drawn DataStatement.gives_drawUpdate_of
  | begin | commit | rollback => cases data

namespace Schema

/-- The tables of the schema are known to the engine, by names that it reads to their ends. -/
structure KnownTo (database : Database) (schema : Schema) : Prop where
  /-- They are known. -/
  knows : ∀ table ∈ schema.tables, database.Knows table.name
  /-- Their names are plain. -/
  plain : ∀ table ∈ schema.tables, IsPlainName table.name

/-- The word FROM stands in no name of a column. -/
def Clear (schema : Schema) : Prop :=
  ∀ table ∈ schema.tables, ∀ column ∈ table.columns, ∀ name, column.key = .text name → IsClearName name

end Schema

/-- A transaction that is generated over known tables is about them. -/
theorem OpenTransaction.GeneratedOver.isAbout {schema : Schema} {transaction : OpenTransaction}
    {database : Database} (generated : transaction.GeneratedOver schema)
    (known : schema.KnownTo database) (clear : schema.Clear) : transaction.IsAbout database := by
  let fits (kind : StatementKind) (text : Value) : Prop := kind.isControl = false →
    ∃ table ∈ schema.tables, ∃ statement : DataStatement,
      statement.Of table ∧ text = .text statement.render
  have drawn : ∀ other, other = schema → ∀ level kind, (drawStatement other level kind).Gives
      fun query => query.Speaks kind ∧ fits kind query.text := by
    rintro _ rfl level kind randomness query given
    exact ⟨gives_drawStatement _ level kind randomness query given, fun data =>
      gives_drawStatement_of _ level data randomness query given⟩
  obtain ⟨earlier, later, grammar, tables, returned⟩ := generated
  have made := (Generation.givesOver_transaction drawn earlier ⟨grammar, tables⟩).2 transaction
    (congrArg Prod.fst returned)
  intro statement member
  obtain ⟨table, listed, drafted, of, said⟩ :=
    made.2 statement member (transaction.dataOnly statement member)
  have touching := known.knows table listed
  have plain := known.plain table listed
  rw [← of.about] at touching plain
  have commanded : statement.command = .write drafted.table ∨ statement.command = .read drafted.table := by
    rw [Statement.command, said]
    refine drafted.command_render plain fun name inside => ?_
    obtain ⟨column, own, key⟩ := of.fetched name inside
    exact clear table listed column own name key
  rcases commanded with writes | reads
  · rw [Statement.touches, writes]
    exact decide_eq_true touching
  · rw [Statement.touches, reads]
    exact decide_eq_true touching

end SerialCheck

import SerialCheck.Proofs.Generated.Beginning

/-!
# Generated transactions are well formed, or given up cleanly

With settings that are accepted and statements that are drawn at random, the generation of a transaction
ends in one of two ways, whatever the random words and the known tables are. It returns a transaction with
a session of its own whose statements stand in slots that were filled within the allowed attempts, or it is
given up and the session is closed. The latter happens exactly if no session is opened or the attempts of
some slot are used up (`Generation.transaction_ends`).
-/
namespace SerialCheck

open SerialCheck.Task

namespace Generation

variable {bench ready after : Bench}

section

variable {opening : Query} {id : Int} {size : Nat}
  (began : (Synthesizer.statement .begin).Returns bench opening ready) {pattern : String}
  (named : ready.settings.schemaChangedError = .text pattern)

include began named

/-- With its data statements a transaction is made. -/
theorem statements_returns {items : List DataItem} {middle : Bench}
    (drew : (dataStatements id size 1).Returns ready items middle) (willing : middle.Willing) :
    ∃ (made : Transaction) (after : Bench) (kind : ClosingKind),
      (statements id (.integer size)).Returns bench made after ∧ middle.Redrawn after ∧
        made.id = .integer id ∧
          made.opening = ⟨.integer id, .integer 0, .begin, opening.text,
            opening.expected.withPatterns [pattern], []⟩ ∧
          made.data = items.map Subtype.val ∧
          made.closing = ⟨.integer id, .integer (size + 1), kind.val, .text kind.val.name, .none, []⟩ := by
  obtain ⟨kind, chosen, chose, first⟩ := drawClosing_returns willing
  obtain ⟨after, closed, second⟩ := closing_returns (willing.redrawn first) kind
  have counted : (use (Value.integer size).count).Returns ready (size : Int) ready :=
    returns_use.2 ⟨rfl, rfl⟩
  refine ⟨_, after, kind, returns_bind.2 ⟨_, _, began, returns_bind.2 ⟨_, _,
    openingOf_returns named id opening, returns_bind.2 ⟨_, _, counted, returns_bind.2 ⟨_, _, drew,
      returns_bind.2 ⟨_, _, chose, returns_bind.2 ⟨_, _, closed, returns_pure.2 ⟨rfl, rfl⟩⟩⟩⟩⟩⟩⟩,
    first.trans second, ?_⟩
  exact ⟨rfl, rfl, rfl, rfl⟩

/-- Without its data statements a transaction is given up. -/
theorem statements_fails {fault : Fault} (failed : (dataStatements id size 1).Fails ready fault after) :
    (statements id (.integer size)).Fails bench fault after := by
  have counted : (use (Value.integer size).count).Returns ready (size : Int) ready :=
    returns_use.2 ⟨rfl, rfl⟩
  exact fails_bind.2 (.inr ⟨_, _, began, fails_bind.2 (.inr ⟨_, _, openingOf_returns named id opening,
    fails_bind.2 (.inr ⟨_, _, counted, failed.bind _⟩)⟩)⟩)

end

/-- What precedes the slots of a transaction: it has its number, and its session and its opening statement
are there. -/
def Begins (bench : Bench) (size : Nat) (session : Session) (opening : Query) (ready : Bench) : Prop :=
  ∃ numbered opened, Numbers bench size numbered ∧ Bench.openSession.Returns numbered session opened ∧
    (Synthesizer.statement .begin).Returns opened opening ready

/-- A transaction can begin in one way only. -/
theorem Begins.unique {size other : Nat} {session second : Session} {opening further : Query} {next : Bench}
    (begins : Begins bench size session opening ready) (again : Begins bench other second further next) :
    size = other ∧ ready = next := by
  obtain ⟨numbered, _, ⟨⟨_, sized, numbering⟩, _⟩, opened, began⟩ := begins
  obtain ⟨_, _, ⟨⟨_, sized', numbering'⟩, _⟩, opened', began'⟩ := again
  obtain ⟨same, rfl⟩ := sized.unique sized'
  obtain ⟨_, rfl⟩ := numbering.unique numbering'
  obtain ⟨_, rfl⟩ := opened.unique opened'
  obtain ⟨_, rfl⟩ := began.unique began'
  simp only [Value.integer.injEq, Int.natCast_inj] at same
  exact ⟨same, rfl⟩

/-- The session that the transaction asks for is refused. -/
def Refused (bench : Bench) : Prop := ∃ fault, asked bench = [.error fault]

/-- In one slot of the transaction, behind slots that were filled, as many attempts in a row are abandoned
as are allowed. -/
def Exhausted (limit : Nat) (bench : Bench) : Prop :=
  ∃ size session opening ready slots middle causes after,
    Begins bench size session opening ready ∧ slots.length < size ∧
      (∀ slot ∈ slots, slot.calls ≤ limit) ∧ Fills slots ready middle ∧ causes.length = limit ∧
        Abandons causes middle after

/-- Where attempts are used up, the data statements of the transaction are given up. -/
theorem Exhausted.fails {limit : Nat} (exhausted : Exhausted limit bench) {size : Nat} {session : Session}
    {opening : Query} (begins : Begins bench size session opening ready) (willing : ready.Willing)
    (allowed : 1 ≤ limit) (given : ready.settings.generationAttempts = .integer limit) (id : Int) :
    ∃ fault last, (dataStatements id size 1).Fails ready fault last := by
  obtain ⟨_, _, _, _, slots, middle, causes, last, again, short, calls, fills, many, gave_up⟩ := exhausted
  obtain ⟨rfl, rfl⟩ := begins.unique again
  obtain ⟨earlier, cause, rfl⟩ : ∃ earlier cause, causes = earlier ++ [cause] := by
    rcases List.eq_nil_or_concat causes with rfl | ⟨earlier, cause, rfl⟩
    · simp at many
      omega
    · exact ⟨earlier, cause, List.concat_eq_append⟩
  exact ⟨_, last, (dataStatements_fails willing allowed given).2
    ⟨slots, middle, earlier, cause, short, calls, fills, many, gave_up, rfl⟩⟩

/-! ## What a transaction is made of -/

/-- The statement is the one that stands in the slot: it is of the slot's kind, has the text of its query and
expects the errors of its query and those of lock conflicts. -/
structure Slot.Carries (slot : Slot) (statement : Statement) : Prop where
  /-- Its kind is the one that was drawn when the attempt succeeded. -/
  kind : statement.kind = slot.kind.val
  /-- Its text is that of the query. -/
  text : statement.text = slot.query.text
  /-- It expects the errors of the query and those of lock conflicts. -/
  expected : ∀ error, error ∈ statement.expected.patterns ↔ error ∈ slot.query.expected.patterns ∨
    error = "deadlock detected" ∨ error = "could not serialize access"
  /-- It lists nothing else as expected. -/
  strays : statement.strays = []

/-- The transaction opens, has one data statement of an enabled kind for each slot, as many as the settings
ask for, and is closed. -/
structure WellFormed (settings : Settings) (slots : List Slot) (transaction : Transaction) : Prop where
  /-- The statements carry the number of the transaction and their places. -/
  numbered : transaction.Numbered
  /-- The first one opens the transaction. -/
  opens : transaction.statements[0]? = some transaction.opening ∧ transaction.opening.kind = .begin
  /-- It expects the error of a table that changes. -/
  changes : ∃ pattern, settings.schemaChangedError = .text pattern ∧
    transaction.opening.expected.patterns = [pattern] ∧ transaction.opening.strays = []
  /-- The number of slots is in the range of the settings. -/
  size : ∃ least greatest : Nat, settings.minSize = .integer least ∧
    settings.maxSize = .integer greatest ∧ least ≤ slots.length ∧ slots.length ≤ greatest
  /-- The data statements stand in the slots, one in each. -/
  data : List.Forall₂ Slot.Carries slots transaction.data
  /-- Their kinds are enabled. -/
  enabled : ∀ statement ∈ transaction.data, statement.kind ∈ settings.enabled
  /-- The last one behind them ends the transaction. -/
  closes : transaction.statements[slots.length + 1]? = some transaction.closing ∧
    transaction.size = slots.length + 2 ∧
      (transaction.closing.kind = .commit ∨ transaction.closing.kind = .rollback)

/-- A statement that is made from a slot stands in it. -/
theorem Slot.carries_item (id : Int) (index : Nat) (slot : Slot) : slot.Carries (slot.item id index).val where
  kind := rfl
  text := rfl
  expected := by
    intro error
    show error ∈ distinct (slot.query.expected.patterns ++ conflictErrors) ↔ _
    rw [ExpectedErrors.mem_distinct, List.mem_append]
    simp [conflictErrors]
  strays := rfl

section

variable {settings : Settings} {slots : List Slot} {made : Transaction} {id : Nat} {opening : Query}
  {pattern : String} {kind : ClosingKind} (isId : made.id = .integer id)
  (isOpening : made.opening = ⟨.integer id, .integer 0, .begin, opening.text,
    opening.expected.withPatterns [pattern], []⟩)
  (isData : made.data = (slots.mapIdx fun place slot => slot.item id (1 + place)).map Subtype.val)
  (isClosing : made.closing =
    ⟨.integer id, .integer (slots.length + 1), kind.val, .text kind.val.name, .none, []⟩)

include isData

/-- The data statement at a place is the one of the slot there. -/
theorem data_at (place : Nat) :
    made.data[place]? = slots[place]?.map fun slot => (slot.item id (1 + place)).val := by
  rw [isData, List.getElem?_map, List.getElem?_mapIdx, Option.map_map]
  rfl

theorem length_data : made.data.length = slots.length := by
  rw [isData, List.length_map, List.length_mapIdx]

include isId isOpening isClosing

/-- The statements carry the number of the transaction and their places. -/
theorem numbered_of_slots : made.Numbered where
  id := ⟨id, isId⟩
  statements := by
    intro place statement found
    have length := length_data isData
    rw [Transaction.statements, List.cons_append] at found
    cases place with
    | zero =>
      rw [List.getElem?_cons_zero, isOpening] at found
      cases found
      exact ⟨isId.symm, rfl⟩
    | succ place =>
      rw [List.getElem?_cons_succ] at found
      by_cases within : place < made.data.length
      · rw [List.getElem?_append_left within, data_at isData] at found
        obtain ⟨slot, _, rfl⟩ := Option.map_eq_some_iff.1 found
        refine ⟨isId.symm, ?_⟩
        show Value.integer ((1 + place : Nat) : Int) = .integer ((place + 1 : Nat) : Int)
        rw [Nat.add_comm]
      · have reached : place < made.data.length + 1 := by
          have bound := (List.getElem?_eq_some_iff.1 found).1
          rwa [List.length_append, List.length_singleton] at bound
        obtain rfl : place = made.data.length := by omega
        rw [List.getElem?_concat_length, isClosing] at found
        cases found
        refine ⟨isId.symm, ?_⟩
        rw [length]
        rfl

/-- What is made of filled slots is well formed. -/
theorem wellFormed_of_slots (named : settings.schemaChangedError = .text pattern)
    (plain : opening.expected = .none) {least greatest : Nat} (first : settings.minSize = .integer least)
    (last : settings.maxSize = .integer greatest) (above : least ≤ slots.length)
    (below : slots.length ≤ greatest) (enabled : ∀ slot ∈ slots, slot.kind.val ∈ settings.enabled) :
    WellFormed settings slots made where
  numbered := numbered_of_slots isId isOpening isData isClosing
  opens := ⟨rfl, by rw [isOpening]⟩
  changes := by
    refine ⟨pattern, named, ?_, by rw [isOpening]⟩
    rw [isOpening, plain]
    rfl
  size := ⟨least, greatest, first, last, above, below⟩
  data := by
    rw [List.forall₂_iff_get]
    refine ⟨(length_data isData).symm, fun place within inside => ?_⟩
    have here := data_at isData place
    rw [List.getElem?_eq_getElem inside, List.getElem?_eq_getElem within, Option.map_some,
      Option.some.injEq] at here
    rw [List.get_eq_getElem, List.get_eq_getElem, here]
    exact Slot.carries_item _ _ _
  enabled := by
    intro statement inside
    obtain ⟨place, found⟩ := List.mem_iff_getElem?.1 inside
    rw [data_at isData] at found
    obtain ⟨slot, there, rfl⟩ := Option.map_eq_some_iff.1 found
    exact enabled slot (List.mem_of_getElem? there)
  closes := by
    have length := length_data isData
    refine ⟨?_, ?_, ?_⟩
    · rw [Transaction.statements, List.cons_append, List.getElem?_cons_succ, ← length,
        List.getElem?_concat_length]
    · rw [Transaction.size, Transaction.statements, List.length_append, List.length_cons, length]
      rfl
    · have ends := made.closes
      cases closing : made.closing.kind <;> rw [closing] at ends <;> simp_all [StatementKind.isTerminal]

end

/-! ## How a generation ends -/

/-- With its statements a transaction is returned on its session. -/
theorem occupy_returns {made : Transaction} {id : Int} {size : Value}
    (drafted : (statements id size).Returns bench made after) (session : Session) :
    ∃ last, (occupy session id size).Returns bench { made with session } last ∧
      last.server = after.server := by
  refine ⟨_, returns_bind.2 ⟨_, _, returns_caught.2 drafted, returns_bind.2 ⟨(), _, returns_log.2 rfl,
    returns_pure.2 ⟨rfl, rfl⟩⟩⟩, ?_⟩
  rfl

/-- Without them it is given up, and the session is closed. -/
theorem occupy_fails {cause : GenerationFault} {id : Int} {size : Value}
    (failed : (statements id size).Fails bench (.generation cause) after) (session : Session) :
    ∃ last, (occupy session id size).Fails bench (.generation cause) last ∧
      session.isClosed last.server = true := by
  obtain ⟨last, ended, _, closed, _⟩ := Bench.closeSession_ends session after
  have closing : (Bench.closeSession session).Returns after () last := ended
  refine ⟨last, ?_, closed⟩
  exact fails_bind.2 (.inr ⟨_, _, returns_caught.2 failed, fails_bind.2 (.inr ⟨_, _, closing,
    fails_throw.2 ⟨rfl, rfl⟩⟩)⟩)

/-- With accepted settings, statements that are drawn over readable tables and a server with proper rules,
the generation of a transaction ends in one of two ways. It returns a well-formed transaction with the next
number and a new session that is open, whose slots were filled within the allowed attempts; then the session
was not refused and no slot used its attempts up. Or it is given up, and one of these has happened; then
every session that it got is closed. -/
theorem transaction_ends {bench : Bench} {ids : List Nat} (accepted : bench.settings.Accepted)
    (grammar : bench.synthesizer = .grammar) (readable : bench.schema.Readable)
    (proper : bench.server.Proper) (history : HandedOut ids bench) :
    ∃ limit : Nat, bench.settings.generationAttempts = .integer limit ∧
      HandedOut (bench.nextTransaction :: ids) (transaction bench).2 ∧
      ((∃ made after, transaction.Returns bench made after ∧ ¬Refused bench ∧ ¬Exhausted limit bench ∧
          (made.id = .integer bench.nextTransaction ∧ ∀ id ∈ ids, id < bench.nextTransaction) ∧
          (made.session.connection = some (bench.server.connections.length + 1) ∧
            made.session.isClosed after.server = false) ∧
          ∃ slots, WellFormed bench.settings slots made.toTransaction ∧
            (∀ slot ∈ slots, slot.calls ≤ limit) ∧
              ∃ opening ready last, Begins bench slots.length made.session opening ready ∧
                Fills slots ready last) ∨
        ∃ cause after, transaction.Fails bench (.generation cause) after ∧
          (Refused bench ∨ Exhausted limit bench) ∧
            ∀ session : Session, session.Granted (asked bench) → session.isClosed after.server = true) := by
  obtain ⟨limit, given, allowed⟩ := accepted.allowed
  obtain ⟨least, greatest, first, last', ordered⟩ := accepted.sizes
  obtain ⟨size, numbered, numbers, above, below⟩ := exists_numbers first last' ordered
  refine ⟨limit, given, numbers.handedOut_transaction history, ?_⟩
  obtain ⟨opened, ⟨cause, refused⟩ | ⟨session, granted, fresh, isOpen⟩, settings, schema, synthesizer, _⟩ :=
    Bench.openSession_ends (numbers.settings ▸ accepted) (numbers.server ▸ proper)
  · right
    refine ⟨.session bench.nextTransaction cause, opened, ?_, .inl ⟨.session cause, ?_⟩, ?_⟩
    · rw [Fails, numbers.transaction_eq]
      exact fails_bind.2 (.inr ⟨_, _, returns_caught.2 refused, fails_throw.2 ⟨rfl, rfl⟩⟩)
    · rw [numbers.asked_eq, refused]
    · intro session granted
      rw [numbers.asked_eq, refused] at granted
      cases List.mem_singleton.1 granted
  have same : opened.settings = bench.settings := settings.trans numbers.settings
  have willing : opened.Willing := Bench.willing_of_accepted (same ▸ accepted)
    (synthesizer.trans (numbers.synthesizer.trans grammar)) (schema.trans numbers.schema ▸ readable)
  obtain ⟨opening, ready, began, moved, plain⟩ :=
    @statement_returns _ willing .begin (fun level => sure_drawOpening level) _ gives_drawOpening_plain
  obtain ⟨pattern, given_pattern⟩ := accepted.pattern
  have named : ready.settings.schemaChangedError = .text pattern := by
    rw [moved.settings, same]
    exact given_pattern
  have still := willing.redrawn moved
  have given' : ready.settings.generationAttempts = .integer limit := by
    rw [moved.settings, same]
    exact given
  have begins : Begins bench size session opening ready := ⟨numbered, opened, numbers, granted, began⟩
  have asks : asked bench = [.ok session] := by rw [numbers.asked_eq, granted]
  have goes : transaction bench = occupy session bench.nextTransaction (.integer size) opened := by
    rw [numbers.transaction_eq]
    exact (returns_caught.2 granted).bind_apply _
  rcases returns_or_fails (dataStatements bench.nextTransaction size 1) ready with
    ⟨items, middle, drew⟩ | ⟨fault, middle, failed⟩
  · left
    obtain ⟨slots, rfl, calls, fills, rfl⟩ := (dataStatements_returns still allowed given').1 drew
    obtain ⟨made, after, kind, drafted, settled, isId, isOpening, isData, isClosing⟩ :=
      statements_returns began named drew (still.redrawn (fills.redrawn still.grammar))
    obtain ⟨last, returned, server⟩ := occupy_returns drafted session
    have untouched : last.server = opened.server := by
      rw [server, settled.beside.server, (fills.redrawn still.grammar).beside.server, moved.beside.server]
    refine ⟨{ made with session }, last, goes.trans returned, ?_, ?_, ⟨isId, history.lt⟩, ⟨?_, ?_⟩, slots, ?_,
      calls, opening, ready, middle, begins, fills⟩
    · rintro ⟨fault, refused⟩
      rw [asks] at refused
      cases refused
    · intro exhausted
      obtain ⟨fault, other, failed⟩ := exhausted.fails begins still allowed given' bench.nextTransaction
      exact failed.not_returns drew
    · rw [fresh, numbers.server]
    · rw [untouched]
      exact isOpen
    · refine wellFormed_of_slots isId isOpening isData isClosing given_pattern plain first last' above below ?_
      have enabled := fills.enabled still.grammar
      rw [moved.settings, same] at enabled
      exact enabled
  · right
    obtain ⟨slots, reached, causes, cause, short, calls, fills, many, gave_up, rfl⟩ :=
      (dataStatements_fails still allowed given').1 failed
    obtain ⟨last, ended, closed⟩ := occupy_fails (statements_fails began named failed) session
    refine ⟨_, last, goes.trans ended, .inr ?_, ?_⟩
    · exact ⟨size, session, opening, ready, slots, reached, _, middle, begins, short, calls, fills, many,
        gave_up⟩
    · intro other granted
      rw [asks] at granted
      cases List.mem_singleton.1 granted
      exact closed

end Generation

namespace Sample

/-- Settings for transactions of one or two data statements, each with three attempts. -/
def brief : Settings where
  minSize := .integer 1
  maxSize := .integer 2
  generationAttempts := .integer 3

theorem brief_accepted : brief.Accepted where
  valid := Settings.validate_of_isSome (by decide +kernel)
  minSize := ⟨1, rfl⟩
  maxSize := ⟨2, rfl⟩
  attempts := ⟨3, rfl⟩
  probability := .inl ⟨_, rfl⟩
  pattern := ⟨_, rfl⟩
  address := ⟨_, rfl⟩
  lockTimeout := nofun

/-- A bench with the tables on which one transaction was generated before; the words are the next random
ones. -/
def followed (schema : Schema) (words : List UInt32) : Bench where
  settings := brief
  randomness := ⟨.integer 0, ⟨words ++ List.replicate 12 0, ⟨#[], 0⟩⟩, [], [], []⟩
  schema := schema
  nextTransaction := 2

/-- A table without columns and one with a column. -/
def lopsided : Schema := ⟨[⟨"t0", [], none⟩, ⟨"t1", [{ name := "c0", dataType := .int }], none⟩]⟩

theorem lopsided_readable : lopsided.Readable where
  tables := by
    intro table inside
    rcases List.mem_cons.1 inside with rfl | inside
    · rfl
    · rw [List.mem_singleton.1 inside]
  columns := by
    intro table inside column member
    rcases List.mem_cons.1 inside with rfl | inside
    · cases member
    · rw [List.mem_singleton.1 inside] at member
      rw [List.mem_singleton.1 member]

theorem followed_proper (schema : Schema) (words : List UInt32) : (followed schema words).server.Proper :=
  fun _ inside => absurd inside List.not_mem_nil

theorem followed_handedOut (schema : Schema) (words : List UInt32) :
    Generation.HandedOut [1] (followed schema words) :=
  .next (.none { followed schema words with nextTransaction := 1 }) (Generation.nextId_returns.2 ⟨rfl, rfl⟩)

end Sample

open Sample in
/-- Over a table without columns and one with a column the second transaction is returned after an attempt
that was abandoned, and without tables it is given up. -/
theorem Generation.transaction_ends_both :
    (∃ made after slots,
        transaction.Returns (followed lopsided [0, 0, 0, 0, 0, 0x40000000]) made after ∧
          made.id = .integer 2 ∧ WellFormed brief slots made.toTransaction ∧
            made.data.map (·.text.plain) = ["INSERT INTO t1(c0) VALUES (NULL)"]) ∧
      ∃ cause after, transaction.Fails (followed {} []) (.generation cause) after ∧
        (Refused (followed {} []) ∨ Exhausted 3 (followed {} [])) ∧
          ∀ session : Session, session.Granted (asked (followed {} [])) →
            session.isClosed after.server = true := by
  obtain ⟨made, after, returned, texts⟩ := returns_of_map (show
    (transaction (followed lopsided [0, 0, 0, 0, 0, 0x40000000])).1.toOption.map
      (·.data.map (·.text.plain)) = some ["INSERT INTO t1(c0) VALUES (NULL)"] by decide +kernel)
  obtain ⟨cause, last, failed, _⟩ := fails_of_map (show
    (transaction.fault? (followed {} [])).map (fun _ => ()) = some () by decide +kernel)
  constructor
  · obtain ⟨_, _, _, ⟨other, _, again, _, _, ⟨named, _⟩, _, slots, formed, _⟩ | ⟨_, _, fails, _⟩⟩ :=
      transaction_ends brief_accepted rfl lopsided_readable (followed_proper _ _)
        (followed_handedOut lopsided [0, 0, 0, 0, 0, 0x40000000])
    · obtain ⟨rfl, _⟩ := returned.unique again
      exact ⟨_, after, slots, returned, named, formed, texts⟩
    · exact absurd returned fails.not_returns
  · have readable : Schema.Readable {} :=
      ⟨fun _ inside => absurd inside List.not_mem_nil, fun _ inside => absurd inside List.not_mem_nil⟩
    obtain ⟨limit, given, _, ⟨_, _, returned, _⟩ | ⟨cause, last, fails, why, closed⟩⟩ :=
      transaction_ends brief_accepted rfl readable (followed_proper _ _) (followed_handedOut {} [])
    · exact absurd returned failed.not_returns
    · obtain rfl : limit = 3 := by
        cases given
        rfl
      exact ⟨cause, last, fails, why, closed⟩

end SerialCheck

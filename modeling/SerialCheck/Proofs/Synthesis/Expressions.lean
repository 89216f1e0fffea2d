import SerialCheck.Proofs.Synthesis.Samples

/-!
# The grammar of expressions

Constants and predicates are texts of a small grammar: `ConstantText` lists the constants of each type, and
`PredicateText` the predicates over given columns, with the depth to which connectives may be nested and the
number of columns that are tested. Whatever is drawn belongs to it (`Constant.yields_draw`,
`Predicate.yields_draw`), and a predicate of a depth tests no more columns than that allows
(`PredicateText.tests_le`).
-/
namespace SerialCheck

/-- The text is a constant of the type. -/
inductive ConstantText : DataType → String → Prop
  /-- The null value is one of every type. -/
  | null (dataType : DataType) : ConstantText dataType "NULL"
  /-- A whole number. -/
  | int {number : Int} (drawn : IsDrawnNumber number) : ConstantText .int (toString number)
  /-- One truth value. -/
  | isTrue : ConstantText .boolean "TRUE"
  /-- The other one. -/
  | isFalse : ConstantText .boolean "FALSE"
  /-- A decimal number with a whole number in front of the point and one behind it. -/
  | numeric {whole fraction : Int} (drawn : IsDrawnNumber whole) (positive : 0 ≤ fraction)
      (bounded : fraction < 100) : ConstantText .numeric (toString whole ++ "." ++ toString fraction)
  /-- A short word in quotes. -/
  | text {word : String} (short : IsShortWord word) : ConstantText .text ("'" ++ word ++ "'")

/-- The comparison operators. -/
def comparisonOperators : List String := ["=", "<>", "<", "<=", ">", ">="]

/-- The text is a predicate over the columns, with connectives nested at most to the depth, that tests as
many columns as given. -/
inductive PredicateText (columns : List Column) : Nat → Nat → String → Prop
  /-- Both predicates hold. -/
  | and {depth left right : Nat} {first second : String} (before : PredicateText columns depth left first)
      (behind : PredicateText columns depth right second) :
      PredicateText columns (depth + 1) (left + right) ("(" ++ first ++ " AND " ++ second ++ ")")
  /-- One of them holds. -/
  | or {depth left right : Nat} {first second : String} (before : PredicateText columns depth left first)
      (behind : PredicateText columns depth right second) :
      PredicateText columns (depth + 1) (left + right) ("(" ++ first ++ " OR " ++ second ++ ")")
  /-- A column is null. -/
  | isNull {depth : Nat} {column : Column} (known : column ∈ columns) :
      PredicateText columns depth 1 ("(" ++ column.name ++ " IS NULL)")
  /-- A column is not null. -/
  | isNotNull {depth : Nat} {column : Column} (known : column ∈ columns) :
      PredicateText columns depth 1 ("(" ++ column.name ++ " IS NOT NULL)")
  /-- A column is compared with a constant of its type. -/
  | compare {depth : Nat} {column : Column} {operator constant : String} (known : column ∈ columns)
      (listed : operator ∈ comparisonOperators) (typed : ConstantText column.dataType constant) :
      PredicateText columns depth 1 ("(" ++ column.name ++ " " ++ operator ++ " " ++ constant ++ ")")

/-- Each connective tests the columns of both sides, and at most so many are nested. -/
theorem PredicateText.tests_le {columns : List Column} {depth tests : Nat} {text : String}
    (predicate : PredicateText columns depth tests text) : tests ≤ 2 ^ depth := by
  induction predicate with
  | and before behind first second =>
    rw [Nat.pow_succ]
    omega
  | or before behind first second =>
    rw [Nat.pow_succ]
    omega
  | isNull known => exact Nat.one_le_two_pow
  | isNotNull known => exact Nat.one_le_two_pow
  | compare known listed typed => exact Nat.one_le_two_pow

/-! ## Constants -/

namespace Constant

/-- A word of letters holds no quote that would have to be written twice. -/
theorem render_word {word : String} (short : IsShortWord word) : (text word).render = "'" ++ word ++ "'" := by
  have plain : ∀ letter ∈ word.toList, quoteChar letter = [letter] := by
    intro letter inside
    have bounds := short.2 letter inside
    have other : letter ≠ '\'' := by
      rintro rfl
      exact absurd bounds.1 (by decide)
    rw [quoteChar, if_neg (by simpa using other)]
  have same : word.toList.flatMap quoteChar = word.toList := by
    calc word.toList.flatMap quoteChar = word.toList.flatMap (fun letter => [letter]) :=
          List.flatMap_congr plain
      _ = word.toList := List.flatMap_singleton' word.toList
  rw [render, same, String.ofList_toList]

/-- A constant that is drawn for a type and is not null is one of the type. -/
theorem yields_drawProper (dataType : DataType) :
    (drawProper dataType).Yields fun constant => ConstantText dataType constant.render := by
  cases dataType with
  | int => exact Draw.yields_number.bind fun number drawn => Draw.yields_pure (.int drawn)
  | boolean =>
    refine (Draw.yields_oneOf true [false]).bind fun value listed => Draw.yields_pure ?_
    cases value with
    | true => exact .isTrue
    | false => exact .isFalse
  | numeric =>
    refine Draw.yields_number.bind fun whole drawn => ?_
    have range : (0 : Int) < numberBound := by decide
    refine (Draw.yields_fresh range).bind fun fraction ⟨positive, bounded⟩ => Draw.yields_pure ?_
    exact ConstantText.numeric drawn positive bounded
  | text =>
    refine Draw.yields_text.bind fun word short => Draw.yields_pure ?_
    rw [render_word short]
    exact .text short

/-- A constant that is drawn for a type is one of the type. -/
theorem yields_draw (dataType : DataType) :
    (draw dataType).Yields fun constant => ConstantText dataType constant.render :=
  (Draw.yields_chance _).bind fun _ _ =>
    Draw.yields_ite (Draw.yields_pure (.null dataType)) (yields_drawProper dataType)

end Constant

/-! ## Predicates -/

/-- The text of an operator is one of the list. -/
theorem Operator.render_mem (operator : Operator) : operator.render ∈ comparisonOperators := by
  cases operator <;> decide

namespace Predicate

variable {columns : List Column}

/-- The text of two predicates that are joined by a connective. -/
theorem render_joined (left right : Predicate) (connective : Connective) :
    (joined left connective right).render =
      "(" ++ left.render ++ (if connective = .and then " AND " else " OR ") ++ right.render ++ ")" := by
  have both : " AND " = " " ++ ("AND" ++ " ") := rfl
  have either : " OR " = " " ++ ("OR" ++ " ") := rfl
  cases connective with
  | and =>
    rw [if_pos rfl, both]
    simp only [render, Connective.render, String.append_assoc]
  | or =>
    rw [if_neg (by decide), either]
    simp only [render, Connective.render, String.append_assoc]

/-- The text of a test for null. -/
theorem render_isNull (column : String) (negated : Bool) : (isNull column negated).render =
    "(" ++ column ++ (if negated then " IS NOT NULL)" else " IS NULL)") := by
  have null : " IS NULL)" = " IS " ++ ("NULL" ++ ")") := rfl
  have other : " IS NOT NULL)" = " IS " ++ ("NOT NULL" ++ ")") := rfl
  cases negated with
  | false =>
    rw [if_neg Bool.false_ne_true, null]
    simp only [render, Bool.false_eq_true, ↓reduceIte, String.append_assoc]
  | true =>
    rw [if_pos rfl, other]
    simp only [render, ↓reduceIte, String.append_assoc]

/-- A test of one column belongs to the grammar at every depth. -/
theorem yields_drawSimple (some_there : columns ≠ []) (depth : Nat) :
    (drawSimple columns).Yields fun predicate => PredicateText columns depth 1 predicate.render := by
  refine (Attempt.yields_member some_there).bind fun column known => ?_
  refine (Attempt.yields_draw (Draw.yields_chance _)).bind fun null _ => Attempt.yields_ite ?_ ?_
  · refine (Attempt.yields_draw (Draw.yields_oneOf false [true])).bind fun negated _ => ?_
    apply Attempt.yields_pure
    rw [render_isNull]
    cases negated with
    | false => exact .isNull known
    | true => exact .isNotNull known
  · refine (Attempt.yields_draw (Draw.yields_oneOf _ _)).bind fun operator _ => ?_
    refine (Attempt.yields_draw (Constant.yields_draw column.dataType)).bind fun constant typed => ?_
    exact Attempt.yields_pure (.compare known operator.render_mem typed)

/-- A predicate that is drawn belongs to the grammar, with connectives nested at most as deep as told. -/
theorem yields_draw (some_there : columns ≠ []) (depth : Nat) :
    (draw columns depth).Yields fun predicate =>
      ∃ tests, PredicateText columns depth tests predicate.render := by
  induction depth with
  | zero => exact (yields_drawSimple some_there 0).mono fun predicate simple => ⟨1, simple⟩
  | succ depth hypothesis =>
    refine (Attempt.yields_draw (Draw.yields_chance _)).bind fun joined _ => Attempt.yields_ite ?_ ?_
    · refine hypothesis.bind fun left ⟨some_tests, before⟩ => ?_
      refine hypothesis.bind fun right ⟨further, behind⟩ => ?_
      refine (Attempt.yields_draw (Draw.yields_oneOf _ _)).bind fun connective _ => ?_
      refine Attempt.yields_pure ⟨some_tests + further, ?_⟩
      rw [render_joined]
      cases connective with
      | and => exact .and before behind
      | or => exact .or before behind
    · exact (yields_drawSimple some_there (depth + 1)).mono fun predicate simple => ⟨1, simple⟩

end Predicate

end SerialCheck

import LogQuery.Proofs.Filter.Parser

/-! The written form of a filter tells it apart from every other one, patterns made ready aside.

A form ends where its first character says: a literal at the quote that is not escaped, a column
behind its digits, an operation at the parenthesis behind its right operand. So two forms with
whatever behind them are the same text only if they are of the same filter.
-/

set_option autoImplicit false

namespace LogQuery.Filter

open Grammar
open Text (Stops stops_nil stops_cons append_inj_of_stops isDigit_of_mem_toDigits)

/-! ## The characters of the written form -/

def operationText (left operator right : List Char) : List Char :=
  '(' :: (left ++ ' ' :: (operator ++ ' ' :: (right ++ [')'])))

theorem toList_literal (value : String) :
    (literal value).text.toList = '"' :: (escaped value.toList ++ ['"']) := by
  simp [text]

theorem toList_column (n : Nat) : (column n).text.toList = '$' :: Nat.toDigits 10 n := by
  simp [text, toString]

theorem toList_relation (op : Comparison) (left right : Filter) (pattern : Option Pattern) :
    (relation op left right pattern).text.toList =
      operationText left.text.toList op.text.toList right.text.toList := by
  simp [text, operationText, toString]

theorem toList_logical (op : Connective) (left right : Filter) :
    (logical op left right).text.toList =
      operationText left.text.toList op.text.toList right.text.toList := by
  simp [text, operationText, toString]

/-! ## Where each form ends -/

theorem quoted_escaped (value : List Char) : Quoted (escaped value) value := by
  induction value with
  | nil => exact .nil
  | cons c value ih =>
    by_cases special : (c == '"' || c == '\\') = true
    · simp only [escaped, List.flatMap_cons, if_pos special]
      exact .escaped ih
    · simp only [escaped, List.flatMap_cons, if_neg special]
      simp only [Bool.or_eq_true, beq_iff_eq, not_or] at special
      exact .plain special.1 special.2 ih

theorem escaped_append_inj {value other rest behind : List Char}
    (same : escaped value ++ '"' :: rest = escaped other ++ '"' :: behind) :
    value = other ∧ rest = behind := by
  have read := readString?_quoted (quoted_escaped value) rest
  rw [same, readString?_quoted (quoted_escaped other)] at read
  obtain ⟨rfl, rfl⟩ := Prod.mk.inj (Option.some.inj read)
  exact ⟨rfl, rfl⟩

theorem toDigits_append_inj {n m : Nat} {rest behind : List Char} (stops : Stops Char.isDigit rest)
    (stopsBehind : Stops Char.isDigit behind)
    (same : Nat.toDigits 10 n ++ rest = Nat.toDigits 10 m ++ behind) : n = m ∧ rest = behind := by
  obtain ⟨word, back⟩ :=
    append_inj_of_stops isDigit_of_mem_toDigits stops isDigit_of_mem_toDigits stopsBehind same
  have value := congrArg (Nat.ofDigitChars 10 · 0) word
  simp only [Nat.ofDigitChars_toDigits (by decide : 1 < 10) (by decide : 10 ≤ 10)] at value
  exact ⟨value, back⟩

/-- Whatever stands behind it, a text that begins with the form of `tree` begins with no other. -/
def IsTold (tree : Filter) : Prop :=
  ∀ (other : Filter) (rest behind : List Char), Stops Char.isDigit rest → Stops Char.isDigit behind →
    tree.text.toList ++ rest = other.text.toList ++ behind →
      tree.withoutPatterns = other.withoutPatterns ∧ rest = behind

theorem operationText_append_inj {left right first second : Filter}
    {operator other rest behind : List Char} (toldLeft : IsTold left) (toldRight : IsTold right)
    (unspaced : ' ' ∉ operator) (unspacedOther : ' ' ∉ other)
    (same : operationText left.text.toList operator right.text.toList ++ rest =
      operationText first.text.toList other second.text.toList ++ behind) :
    left.withoutPatterns = first.withoutPatterns ∧ operator = other ∧
      right.withoutPatterns = second.withoutPatterns ∧ rest = behind := by
  have visible {operator : List Char} (unspaced : ' ' ∉ operator) :
      ∀ c ∈ operator, (c != ' ') = true := by
    intro c member
    simpa using fun space : c = ' ' => unspaced (space ▸ member)
  simp only [operationText, List.cons_append, List.append_assoc, List.nil_append, List.cons.injEq,
    true_and] at same
  obtain ⟨sameLeft, behindLeft⟩ := toldLeft first _ _ (stops_cons rfl _) (stops_cons rfl _) same
  obtain ⟨sameOperator, behindOperator⟩ := append_inj_of_stops (visible unspaced)
    (stops_cons rfl _) (visible unspacedOther) (stops_cons rfl _) (List.cons.inj behindLeft).2
  obtain ⟨sameRight, behindRight⟩ := toldRight second _ _ (stops_cons rfl _) (stops_cons rfl _)
    (List.cons.inj behindOperator).2
  exact ⟨sameLeft, sameOperator, sameRight, (List.cons.inj behindRight).2⟩

theorem space_not_mem_comparison (op : Comparison) : ' ' ∉ op.text.toList := by
  cases op <;> decide

theorem space_not_mem_connective (op : Connective) : ' ' ∉ op.text.toList := by
  cases op <;> decide

theorem comparison_text_inj {op other : Comparison} (same : op.text.toList = other.text.toList) :
    op = other := by
  cases op <;> cases other <;> first | rfl | exact absurd same (by decide)

theorem connective_text_inj {op other : Connective} (same : op.text.toList = other.text.toList) :
    op = other := by
  cases op <;> cases other <;> first | rfl | exact absurd same (by decide)

theorem comparison_text_ne (op : Comparison) (other : Connective) :
    op.text.toList ≠ other.text.toList := by
  cases op <;> cases other <;> decide

theorem isTold (tree : Filter) : IsTold tree := by
  induction tree with
  | literal value =>
    intro other rest behind stops stopsBehind same
    cases other with
    | literal other =>
      simp only [toList_literal, List.cons_append, List.append_assoc, List.nil_append,
        List.cons.injEq, true_and] at same
      obtain ⟨value, back⟩ := escaped_append_inj same
      exact ⟨congrArg literal (String.toList_inj.1 value), back⟩
    -- the first character tells the kinds apart
    | column | relation | logical =>
      simp [toList_literal, toList_column, toList_relation, toList_logical, operationText] at same
  | column n =>
    intro other rest behind stops stopsBehind same
    cases other with
    | column m =>
      simp only [toList_column, List.cons_append, List.cons.injEq, true_and] at same
      obtain ⟨number, back⟩ := toDigits_append_inj stops stopsBehind same
      exact ⟨congrArg column number, back⟩
    | literal | relation | logical =>
      simp [toList_literal, toList_column, toList_relation, toList_logical, operationText] at same
  | relation op left right pattern toldLeft toldRight =>
    intro other rest behind stops stopsBehind same
    rw [toList_relation] at same
    cases other with
    | relation other first second otherPattern =>
      rw [toList_relation] at same
      obtain ⟨sameLeft, operator, sameRight, back⟩ := operationText_append_inj toldLeft toldRight
        (space_not_mem_comparison op) (space_not_mem_comparison other) same
      refine ⟨?_, back⟩
      simp only [withoutPatterns, comparison_text_inj operator, sameLeft, sameRight]
    | logical other first second =>
      rw [toList_logical] at same
      obtain ⟨_, operator, _⟩ := operationText_append_inj toldLeft toldRight
        (space_not_mem_comparison op) (space_not_mem_connective other) same
      -- no comparison is spelled like a connective
      exact absurd operator (comparison_text_ne op other)
    | literal | column => simp [toList_literal, toList_column, operationText] at same
  | logical op left right toldLeft toldRight =>
    intro other rest behind stops stopsBehind same
    rw [toList_logical] at same
    cases other with
    | logical other first second =>
      rw [toList_logical] at same
      obtain ⟨sameLeft, operator, sameRight, back⟩ := operationText_append_inj toldLeft toldRight
        (space_not_mem_connective op) (space_not_mem_connective other) same
      refine ⟨?_, back⟩
      simp only [withoutPatterns, connective_text_inj operator, sameLeft, sameRight]
    | relation other first second otherPattern =>
      rw [toList_relation] at same
      obtain ⟨_, operator, _⟩ := operationText_append_inj toldLeft toldRight
        (space_not_mem_connective op) (space_not_mem_comparison other) same
      exact absurd operator.symm (comparison_text_ne other op)
    | literal | column => simp [toList_literal, toList_column, operationText] at same

theorem text_withoutPatterns (tree : Filter) : tree.withoutPatterns.text = tree.text := by
  induction tree with
  | literal value => rfl
  | column n => rfl
  | relation op left right pattern left_same right_same =>
    simp only [withoutPatterns, text, left_same, right_same]
  | logical op left right left_same right_same =>
    simp only [withoutPatterns, text, left_same, right_same]

theorem text_eq_iff {tree other : Filter} :
    tree.text = other.text ↔ tree.withoutPatterns = other.withoutPatterns := by
  constructor
  · intro same
    exact (isTold tree other [] [] (stops_nil _) (stops_nil _) (by rw [same])).1
  · intro same
    rw [← text_withoutPatterns tree, same, text_withoutPatterns]

/-! ## Reading the written form of a relation -/

theorem Grammar.Operand.written {word : List Char} {tree : Filter} (written : Operand word tree) :
    Operand tree.text.toList tree := by
  cases written with
  | @column digits some_digit all small =>
    rw [toList_column]
    have same : Nat.ofDigitChars 10 (Nat.toDigits 10 (Nat.ofDigitChars 10 digits 0)) 0 =
        Nat.ofDigitChars 10 digits 0 := Nat.ofDigitChars_toDigits (by decide) (by decide)
    have column := @Operand.column (Nat.toDigits 10 (Nat.ofDigitChars 10 digits 0))
      Nat.toDigits_ne_nil isDigit_of_mem_toDigits (by rwa [same])
    rwa [same] at column
  | @literal text value quoted =>
    rw [toList_literal, String.toList_ofList]
    exact .literal (quoted_escaped value)

section

variable [Regex.Engine]

theorem Grammar.Relation.written {word : List Char} {op : Comparison} {left right : Filter}
    {pattern : Option Pattern} (written : Relation word (relation op left right pattern)) :
    Relation (left.text ++ " " ++ op.text ++ " " ++ right.text).toList
      (relation op left right pattern) := by
  cases written with
  | compared first _ _ _ second goesWith =>
    have spelling : op.text ∈ comparisonSpellings op := by
      cases op <;> simp [comparisonSpellings, Comparison.text]
    have space : Blank [' '] := by
      intro c member
      cases List.mem_singleton.1 member
      rfl
    simp only [String.toList_append]
    exact .compared first.written space spelling space second.written goesWith

theorem parse_relation {text : String} {op : Comparison} {left right : Filter}
    {pattern : Option Pattern} (written : Relation text.toList (relation op left right pattern)) :
    parse text = .ok (relation op left right pattern) :=
  parse_iff.2 ⟨[], text.toList, [], blank_nil, .part (.part written), blank_nil, by simp⟩

/-- Two filters have one text only if they are one filter, patterns made ready aside; and the text
of a relation that was read, less its parentheses, is read as the same relation. -/
theorem text_identifies :
    (∀ tree other : Filter,
      tree.text = other.text ↔ tree.withoutPatterns = other.withoutPatterns) ∧
    ∀ (source : String) (tree : Filter) (op : Comparison) (left right : Filter)
      (pattern : Option Pattern), parse source = .ok tree →
        relation op left right pattern ∈ tree.nodes →
          ∃ inner, (relation op left right pattern).text = "(" ++ inner ++ ")" ∧
            parse inner = .ok (relation op left right pattern) := by
  refine ⟨fun _ _ => text_eq_iff, fun source tree op left right pattern parsed member => ?_⟩
  obtain ⟨_, _, _, _, alternatives, _, _⟩ := parse_iff.1 parsed
  obtain ⟨word, written⟩ := alternatives.relation member
  refine ⟨_, ?_, parse_relation written.written⟩
  rw [← String.toList_inj, toList_relation]
  simp [operationText]

end

theorem text_identifies_quotedAnd :
    let tree := relation .equal (column 1) (literal "(\" AND $2") none
    parse "$1==\"(\\\" AND $2\"" = .ok tree ∧ tree.text = "($1 == \"(\\\" AND $2\")" ∧
      ∃ inner, tree.text = "(" ++ inner ++ ")" ∧ parse inner = .ok tree := by
  intro tree
  have quoted : Operand "\"(\\\" AND $2\"".toList (literal "(\" AND $2") :=
    .literal (quoted_escaped "(\" AND $2".toList)
  have equality : "==" ∈ comparisonSpellings .equal := List.mem_singleton_self _
  have patternless : GoesWith none .equal (literal "(\" AND $2") := rfl
  have written : Relation "$1==\"(\\\" AND $2\"".toList tree :=
    .compared operand_first blank_nil equality blank_nil quoted patternless
  have parsed := parse_relation written
  exact ⟨parsed, rfl, text_identifies.2 _ tree _ _ _ _ parsed List.mem_cons_self⟩

end LogQuery.Filter

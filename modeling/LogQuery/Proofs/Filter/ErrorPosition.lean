import LogQuery.Proofs.Filter.Parser

/-! Reading a filter stops where the text could still have been continued to a filter.

What was read before is kept, and what is missing is filled in with the column `$1`, compared with
itself where a whole relation is missing. A column needs no pattern, so that this does for every
kind of comparison, also where a literal was refused as a pattern. -/

set_option autoImplicit false

namespace LogQuery.Filter

open Grammar

/-- What is in front of the place where reading stopped can be continued to a text of `Language`. -/
def CanContinue (Language : List Char → Prop) (text : List Char) (stop : Stop) : Prop :=
  ∃ front suffix, text = front ++ stop.rest ∧ Language (front ++ suffix)

theorem CanContinue.prepend {Language Longer : List Char → Prop} {text : List Char} {stop : Stop}
    (inner : CanContinue Language text stop) (before : List Char)
    (longer : ∀ word, Language word → Longer (before ++ word)) :
    CanContinue Longer (before ++ text) stop := by
  obtain ⟨front, suffix, rfl, continued⟩ := inner
  refine ⟨before ++ front, suffix, (List.append_assoc ..).symm, ?_⟩
  rw [List.append_assoc]
  exact longer _ continued

theorem CanContinue.extend {Language Longer : List Char → Prop} {text : List Char} {stop : Stop}
    (inner : CanContinue Language text stop) (behind : List Char)
    (longer : ∀ word, Language word → Longer (word ++ behind)) : CanContinue Longer text stop := by
  obtain ⟨front, suffix, rfl, continued⟩ := inner
  refine ⟨front, suffix ++ behind, rfl, ?_⟩
  rw [← List.append_assoc]
  exact longer _ continued

theorem canContinue_front {Language : List Char → Prop} {text suffix : List Char}
    (continued : Language suffix) (cause : ParseCause) : CanContinue Language text ⟨text, cause⟩ :=
  ⟨[], suffix, rfl, continued⟩

/-! ## Operands -/

def FirstColumn (text : List Char) : Prop := ∃ gap, Blank gap ∧ text = gap ++ ['$', '1']

theorem parseColumn_error {text : List Char} {stop : Stop} (failed : parseColumn text = .error stop) :
    stop.rest = text := by
  simp only [parseColumn] at failed
  split at failed
  · cases failed
    rfl
  · split at failed
    · cases failed
    · cases failed
      rfl

theorem parseOperand_error {text : List Char} {stop : Stop}
    (failed : parseOperand text = .error stop) : CanContinue FirstColumn text stop := by
  obtain ⟨gap, blank, cut⟩ := exists_blank text
  have first : FirstColumn ['$', '1'] := ⟨[], blank_nil, rfl⟩
  have behindGap (word : List Char) : FirstColumn word → FirstColumn (gap ++ word) := by
    rintro ⟨inner, blankInner, rfl⟩
    exact ⟨gap ++ inner, blank.append blankInner, (List.append_assoc ..).symm⟩
  rw [cut]
  refine CanContinue.prepend ?_ gap behindGap
  rw [parseOperand] at failed
  split at failed
  · next digits front =>
    -- the dollar sign is kept, whatever is wrong with the digits
    obtain ⟨rest, cause⟩ := stop
    obtain rfl : rest = digits := parseColumn_error failed
    exact ⟨['$'], ['1'], front, first⟩
  · next behind front =>
    split at failed
    · cases failed
    · cases failed
      rw [front]
      exact canContinue_front first _
  · next c behind _ _ front =>
    cases failed
    rw [front]
    exact canContinue_front first _
  · next front =>
    cases failed
    rw [front]
    exact canContinue_front first _

/-! ## Relations -/

section

variable [Regex.Engine]

def SomeRelation (text : List Char) : Prop :=
  ∃ gap word tree, Blank gap ∧ Relation word tree ∧ text = gap ++ word

theorem goesWith_column (op : Comparison) (n : Nat) : GoesWith none op (column n) := by
  cases op <;> rfl

theorem relation_first {word before after : List Char} {left : Filter} {op : Comparison}
    {token : String} (written : Operand word left) (blankBefore : Blank before)
    (spelling : token ∈ comparisonSpellings op) (blankAfter : Blank after) :
    Relation (word ++ before ++ token.toList ++ after ++ ['$', '1'])
      (relation op left (column 1) none) :=
  .compared written blankBefore spelling blankAfter operand_first (goesWith_column op 1)

/-- Behind a comparison, what can be continued to the column `$1` can be continued to a relation. -/
theorem CanContinue.compared {gap word before after text : List Char} {left : Filter}
    {op : Comparison} {token : String} {stop : Stop} (inner : CanContinue FirstColumn text stop)
    (blank : Blank gap) (written : Operand word left) (blankBefore : Blank before)
    (spelling : token ∈ comparisonSpellings op) (blankAfter : Blank after) :
    CanContinue SomeRelation (gap ++ (word ++ before ++ token.toList ++ after) ++ text) stop := by
  apply inner.prepend
  rintro _ ⟨inner, blankInner, rfl⟩
  refine ⟨gap, _, _, blank,
    relation_first written blankBefore spelling (blankAfter.append blankInner), ?_⟩
  simp only [List.append_assoc]

theorem parseRelation_error {text : List Char} {stop : Stop}
    (failed : parseRelation text = .error stop) : CanContinue SomeRelation text stop := by
  have equality : "==" ∈ comparisonSpellings .equal := List.mem_singleton_self _
  cases first : parseOperand text with
  | error earlier =>
    simp only [parseRelation, first, bind, Except.bind] at failed
    cases failed
    apply (parseOperand_error first).extend "==$1".toList
    rintro _ ⟨gap, blank, rfl⟩
    refine ⟨gap, _, _, blank, relation_first operand_first blank_nil equality blank_nil, ?_⟩
    simp
  | ok pair =>
    obtain ⟨left, middle⟩ := pair
    obtain ⟨gap, word, blank, written, rfl⟩ := operand_of_parseOperand first
    obtain ⟨before, blankBefore, cut⟩ := exists_blank middle
    simp only [parseRelation, first, bind, Except.bind] at failed
    split at failed
    · -- no comparison
      cases failed
      refine ⟨gap ++ (word ++ before), "==$1".toList, ?_, gap, _, _, blank,
        relation_first written blankBefore equality blank_nil, ?_⟩
      · simp only [List.append_assoc]
        rw [← cut]
      · simp
    · next op behind read =>
      obtain ⟨token, spelling, front⟩ := spelling_of_readComparison? read
      obtain ⟨after, blankAfter, cutBehind⟩ := exists_blank behind
      have same : gap ++ (word ++ middle) =
          gap ++ (word ++ before ++ token.toList ++ after) ++ Unicode.trimStart behind := by
        rw [cut, front]
        simp only [List.append_assoc]
        rw [← cutBehind]
      rw [same]
      apply CanContinue.compared _ blank written blankBefore spelling blankAfter
      split at failed
      · next second =>
        -- no right operand
        cases failed
        exact parseOperand_error second
      · split at failed
        · cases failed
        · -- a literal that is no pattern
          cases failed
          exact canContinue_front ⟨[], blank_nil, rfl⟩ _

/-! ## Whole filters -/

theorem parseFurther_error {text : List Char} {stop : Stop}
    (failed : parseFurther text = .error stop) :
    CanContinue (fun word => ∃ further, Further word further) text stop := by
  fun_induction parseFurther text generalizing stop with
  | case1 => cases failed
  | case2 text connected c behind front =>
    cases failed
    obtain ⟨gap, blank, cut⟩ := exists_blank text
    rw [front] at cut
    exact ⟨gap, [], cut, [], by simpa using Further.done blank⟩
  | case3 text op behind connected earlier related =>
    cases failed
    obtain ⟨before, blankBefore, cut⟩ := exists_blank text
    obtain ⟨token, spelling, front⟩ := spelling_of_readConnective? connected
    rw [cut, front, ← List.append_assoc]
    apply (parseRelation_error related).prepend
    rintro _ ⟨after, word, tree, blankAfter, written, rfl⟩
    refine ⟨[(op, tree)], ?_⟩
    have further := Further.more blankBefore spelling blankAfter written (.done blank_nil)
    simp only [List.append_assoc, List.append_nil] at further ⊢
    exact further
  -- reading stopped further on, with a whole relation more in front
  | case4 text op behind connected next rest related ih =>
    obtain ⟨before, blankBefore, cut⟩ := exists_blank text
    obtain ⟨token, spelling, front⟩ := spelling_of_readConnective? connected
    obtain ⟨after, word, blankAfter, written, rfl⟩ := relation_of_parseRelation related
    cases onward : parseFurther rest with
    | ok further =>
      rw [onward] at failed
      cases failed
    | error earlier =>
      rw [onward] at failed
      cases failed
      have same : text = before ++ token.toList ++ after ++ word ++ rest := by
        rw [cut, front]
        simp only [List.append_assoc]
      rw [same]
      apply (ih onward).prepend
      rintro _ ⟨further, others⟩
      exact ⟨_, .more blankBefore spelling blankAfter written others⟩

theorem parseAll_error {text : List Char} {stop : Stop} (failed : parseAll text = .error stop) :
    CanContinue (fun word => ∃ tree, parseAll word = .ok tree) text stop := by
  cases related : parseRelation text with
  | error earlier =>
    simp only [parseAll, related, bind, Except.bind] at failed
    cases failed
    obtain ⟨front, suffix, same, gap, word, tree, blank, written, continued⟩ :=
      parseRelation_error related
    refine ⟨front, suffix, same, join tree [], ?_⟩
    rw [continued]
    exact parseAll_runs blank ⟨word, [], written, .done blank_nil, (List.append_nil _).symm⟩
  | ok pair =>
    obtain ⟨first, rest⟩ := pair
    obtain ⟨gap, word, blank, written, rfl⟩ := relation_of_parseRelation related
    cases onward : parseFurther rest with
    | ok further =>
      simp only [parseAll, related, bind, Except.bind, onward] at failed
      cases failed
    | error earlier =>
      simp only [parseAll, related, bind, Except.bind, onward] at failed
      cases failed
      rw [← List.append_assoc]
      apply (parseFurther_error onward).prepend
      rintro others ⟨further, writtenOthers⟩
      refine ⟨join first further, ?_⟩
      rw [List.append_assoc]
      exact parseAll_runs blank ⟨word, others, written, writtenOthers, rfl⟩

/-- Where a text is refused as a filter, what stands in front of the place that the error tells can
be continued to a filter. -/
theorem position_canContinue {text : String} {e : ParseError} (failed : parse text = .error e) :
    e.position ≤ text.length ∧
      ∃ (suffix : String) (tree : Filter),
        parse (String.ofList (text.toList.take e.position) ++ suffix) = .ok tree := by
  rw [parse] at failed
  cases stopped : parseAll text.toList with
  | ok tree =>
    rw [stopped] at failed
    cases failed
  | error stop =>
    rw [stopped] at failed
    cases failed
    obtain ⟨front, suffix, same, tree, continued⟩ := parseAll_error stopped
    have position : text.toList.length - stop.rest.length = front.length := by
      rw [same, List.length_append]
      omega
    simp only [position]
    refine ⟨?_, String.ofList suffix, tree, ?_⟩
    · rw [← String.length_toList, same, List.length_append]
      omega
    · rw [same, List.take_left]
      rw [parse_iff, ← parseAll_iff]
      simpa using continued

end

theorem position_canContinue_unterminated :
    parse "$1 ~= \"b\\\"" = .error ⟨6, .unterminatedString⟩ ∧ 6 ≤ "$1 ~= \"b\\\"".length ∧
      ∃ (suffix : String) (tree : Filter), parse ("$1 ~= " ++ suffix) = .ok tree := by
  have failed : parse "$1 ~= \"b\\\"" = .error ⟨6, .unterminatedString⟩ := rfl
  have front : String.ofList ("$1 ~= \"b\\\"".toList.take 6) = "$1 ~= " := rfl
  obtain ⟨within, suffix, tree, continued⟩ := position_canContinue failed
  rw [front] at continued
  exact ⟨failed, within, suffix, tree, continued⟩

end LogQuery.Filter

import LogQuery.Proofs.Filter.Grammar
import LogQuery.Proofs.Text.Outcome
import LogQuery.Proofs.Text.Run

/-! The reading of operands and relations takes a word of the grammar off the front of a text.

The other way, a reader has to be shown to take the whole word, which for the digits of a column
depends on what stands behind them.
-/

set_option autoImplicit false

namespace LogQuery.Filter

open Grammar
open Text (Stops stops_nil stops_cons takeWhile_stops dropWhile_stops trimStart_blank isDigit_blank
  readWord?_digits bind_eq_ok_iff)

/-! ## Blanks in front -/

theorem exists_blank (text : List Char) : ∃ gap, Blank gap ∧ text = gap ++ Unicode.trimStart text :=
  Text.exists_run Unicode.isBlank text

theorem stops_blank {gap text : List Char} (blank : Blank gap) (stops : Stops Char.isDigit text) :
    Stops Char.isDigit (gap ++ text) := by
  cases gap with
  | nil => exact stops
  | cons c gap => exact stops_cons (isDigit_blank (blank c List.mem_cons_self)) _

/-! ## Operands -/

theorem quoted_of_readString? {text value rest : List Char}
    (read : readString? text = some (value, rest)) :
    ∃ inner, Quoted inner value ∧ text = inner ++ '"' :: rest := by
  fun_induction readString? text generalizing value rest with
  | case1 => cases read
  | case2 behind =>
    cases read
    exact ⟨[], .nil, rfl⟩
  | case3 => cases read
  | case4 c behind ih =>
    obtain ⟨⟨value, rest⟩, read, same⟩ := Option.map_eq_some_iff.1 read
    cases same
    obtain ⟨inner, quoted, rfl⟩ := ih read
    exact ⟨'\\' :: c :: inner, .escaped quoted, rfl⟩
  | case5 c behind no_quote no_end no_escape ih =>
    obtain ⟨⟨value, rest⟩, read, same⟩ := Option.map_eq_some_iff.1 read
    cases same
    have no_backslash : c ≠ '\\' := by
      rintro rfl
      cases behind with
      | nil => exact no_end rfl rfl
      | cons next behind => exact no_escape next behind rfl rfl
    obtain ⟨inner, quoted, rfl⟩ := ih read
    exact ⟨c :: inner, .plain no_quote no_backslash quoted, rfl⟩

theorem readString?_quoted {inner value : List Char} (quoted : Quoted inner value)
    (rest : List Char) : readString? (inner ++ '"' :: rest) = some (value, rest) := by
  induction quoted with
  | nil => rfl
  | plain no_quote no_backslash _ ih =>
    rw [List.cons_append, readString?, ih]
    · rfl
    · exact no_quote
    · exact fun backslash => absurd backslash no_backslash
    · exact fun _ _ backslash => absurd backslash no_backslash
  | escaped _ ih =>
    rw [List.cons_append, List.cons_append, readString?, ih]
    rfl

theorem column_of_parseColumn {text rest : List Char} {tree : Filter}
    (parsed : parseColumn text = .ok (tree, rest)) :
    ∃ digits, Operand ('$' :: digits) tree ∧ text = digits ++ rest := by
  simp only [parseColumn] at parsed
  split at parsed
  · cases parsed
  · next some_digit =>
    have some_digit : text.takeWhile Char.isDigit ≠ [] := by simpa using some_digit
    have all : ∀ c ∈ text.takeWhile Char.isDigit, c.isDigit = true :=
      fun _ member => List.mem_takeWhile_imp member
    split at parsed
    · next n read =>
      cases parsed
      rw [readWord?_digits some_digit all, Option.filter_eq_some_iff] at read
      obtain ⟨value, small⟩ := read
      cases value
      exact ⟨_, .column some_digit all (of_decide_eq_true small),
        List.takeWhile_append_dropWhile.symm⟩
    · cases parsed

theorem operand_of_parseOperand {text rest : List Char} {tree : Filter}
    (parsed : parseOperand text = .ok (tree, rest)) :
    ∃ gap word, Blank gap ∧ Operand word tree ∧ text = gap ++ (word ++ rest) := by
  obtain ⟨gap, blank, cut⟩ := exists_blank text
  rw [parseOperand] at parsed
  split at parsed
  · next behind front =>
    obtain ⟨digits, column, rfl⟩ := column_of_parseColumn parsed
    exact ⟨gap, _, blank, column, by rw [cut, front]; rfl⟩
  · next behind front =>
    split at parsed
    · next value behind read =>
      cases parsed
      obtain ⟨inner, quoted, rfl⟩ := quoted_of_readString? read
      exact ⟨gap, _, blank, .literal quoted, by rw [cut, front]; simp⟩
    · cases parsed
  · cases parsed
  · cases parsed

theorem Grammar.Operand.stops_isBlank {word : List Char} {tree : Filter} (written : Operand word tree)
    (rest : List Char) : Stops Unicode.isBlank (word ++ rest) := by
  cases written with
  | column => exact stops_cons (by decide) _
  | literal => exact stops_cons (by decide) _

theorem parseOperand_operand {gap word rest : List Char} {tree : Filter} (blank : Blank gap)
    (written : Operand word tree) (stops : Stops Char.isDigit rest) :
    parseOperand (gap ++ (word ++ rest)) = .ok (tree, rest) := by
  rw [parseOperand, trimStart_blank blank (written.stops_isBlank rest)]
  cases written with
  | column some_digit all small =>
    have read : Text.readWord? _ = some _ :=
      (readWord?_digits some_digit all).trans (Option.filter_some_pos (decide_eq_true small))
    have some_digit := List.isEmpty_eq_false_iff.2 some_digit
    simp only [List.cons_append, parseColumn, takeWhile_stops all stops, dropWhile_stops all stops,
      read, some_digit]
    rfl
  | literal quoted =>
    simp only [List.cons_append, List.append_assoc, List.nil_append, readString?_quoted quoted]

theorem operand_first : Operand ['$', '1'] (column 1) :=
  @Operand.column ['1'] (by decide) (List.all_eq_true.1 rfl) (by decide)

/-! ## Relations -/

theorem spelling_of_readComparison? {text rest : List Char} {op : Comparison}
    (read : readComparison? text = some (op, rest)) :
    ∃ token ∈ comparisonSpellings op, text = token.toList ++ rest := by
  unfold readComparison? at read
  split at read <;> cases read
  · exact ⟨"==", by simp [comparisonSpellings], rfl⟩
  · exact ⟨"!=", by simp [comparisonSpellings], rfl⟩
  · exact ⟨"<>", by simp [comparisonSpellings], rfl⟩
  · exact ⟨"~=", by simp [comparisonSpellings], rfl⟩

theorem readComparison?_spelling {op : Comparison} {token : String}
    (spelling : token ∈ comparisonSpellings op) (rest : List Char) :
    readComparison? (token.toList ++ rest) = some (op, rest) := by
  cases op <;> simp only [comparisonSpellings, List.mem_cons, List.not_mem_nil, or_false] at spelling
  · subst spelling; rfl
  · rcases spelling with rfl | rfl <;> rfl
  · subst spelling; rfl

theorem comparison_stops {op : Comparison} {token : String}
    (spelling : token ∈ comparisonSpellings op) (rest : List Char) :
    Stops Unicode.isBlank (token.toList ++ rest) ∧ Stops Char.isDigit (token.toList ++ rest) := by
  cases op <;> simp only [comparisonSpellings, List.mem_cons, List.not_mem_nil, or_false] at spelling
  · subst spelling; exact ⟨stops_cons (by decide) _, stops_cons (by decide) _⟩
  · rcases spelling with rfl | rfl <;> exact ⟨stops_cons (by decide) _, stops_cons (by decide) _⟩
  · subst spelling; exact ⟨stops_cons (by decide) _, stops_cons (by decide) _⟩

section

variable [Regex.Engine]

theorem relate?_eq_some_iff {op : Comparison} {left right tree : Filter} :
    relate? op left right = some tree ↔
      ∃ pattern, GoesWith pattern op right ∧ tree = relation op left right pattern := by
  unfold relate?
  split
  · next value =>
    rw [Option.map_eq_some_iff]
    constructor
    · rintro ⟨pattern, compiled, rfl⟩
      exact ⟨some pattern, ⟨rfl, compiled.symm⟩, rfl⟩
    · rintro ⟨_ | pattern, ⟨present, compiled⟩, rfl⟩
      · cases present
      · exact ⟨pattern, compiled.symm, rfl⟩
  · next other =>
    simp only [goesWith_other other, exists_eq_left, Option.some.injEq, eq_comm]

theorem relation_of_parseRelation {text rest : List Char} {tree : Filter}
    (parsed : parseRelation text = .ok (tree, rest)) :
    ∃ gap word, Blank gap ∧ Relation word tree ∧ text = gap ++ (word ++ rest) := by
  obtain ⟨⟨left, middle⟩, first, compared⟩ := bind_eq_ok_iff.1 parsed
  obtain ⟨gap, word, blank, writtenLeft, rfl⟩ := operand_of_parseOperand first
  obtain ⟨before, blankBefore, cut⟩ := exists_blank middle
  dsimp only at compared
  split at compared
  · cases compared
  · next op behind read =>
    obtain ⟨token, spelling, front⟩ := spelling_of_readComparison? read
    obtain ⟨after, blankAfter, cutBehind⟩ := exists_blank behind
    obtain ⟨⟨right, last⟩, second, related⟩ := bind_eq_ok_iff.1 compared
    obtain ⟨further, operand, blankFurther, writtenRight, trimmed⟩ := operand_of_parseOperand second
    dsimp only at related
    split at related
    · next relates =>
      cases related
      obtain ⟨pattern, goesWith, rfl⟩ := relate?_eq_some_iff.1 relates
      refine ⟨gap, _, blank, .compared writtenLeft blankBefore spelling
        (blankAfter.append blankFurther) writtenRight goesWith, ?_⟩
      rw [cut, front, cutBehind, trimmed]
      simp only [List.append_assoc]
    · cases related

theorem parseRelation_eq {text middle behind rest : List Char} {left right tree : Filter}
    {op : Comparison} (first : parseOperand text = .ok (left, middle))
    (read : readComparison? (Unicode.trimStart middle) = some (op, behind))
    (second : parseOperand (Unicode.trimStart behind) = .ok (right, rest))
    (related : relate? op left right = some tree) : parseRelation text = .ok (tree, rest) := by
  simp only [parseRelation, bind, Except.bind, first, read, second, related]

theorem parseRelation_relation {gap word rest : List Char} {tree : Filter} (blank : Blank gap)
    (written : Relation word tree) (stops : Stops Char.isDigit rest) :
    parseRelation (gap ++ (word ++ rest)) = .ok (tree, rest) := by
  cases written with
  | @compared first second before after left right op token pattern
      writtenLeft blankBefore spelling blankAfter writtenRight goesWith =>
    simp only [List.append_assoc]
    apply parseRelation_eq
    · apply parseOperand_operand blank writtenLeft
      exact stops_blank blankBefore (comparison_stops spelling _).2
    · rw [trimStart_blank blankBefore (comparison_stops spelling _).1]
      exact readComparison?_spelling spelling _
    · rw [trimStart_blank blankAfter (writtenRight.stops_isBlank _)]
      have operand := parseOperand_operand blank_nil writtenRight stops
      exact operand
    · exact relate?_eq_some_iff.2 ⟨pattern, goesWith, rfl⟩

end

end LogQuery.Filter

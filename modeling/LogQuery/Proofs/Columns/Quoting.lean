import Mathlib.Data.List.DropRight
import LogQuery.Proofs.Columns.Tokenizer

/-! Splitting a line undoes the writing of its columns.

A column is written in quotes of either kind, with a backslash before each such quote and each
backslash, or bare where none of its characters would be taken for something else. Columns stand one
behind the other with separators between them. Whatever mixture of writings is chosen, the line is
no JSON object and brings the columns back. -/

set_option autoImplicit false

namespace LogQuery.Columns

def escapedFor (quote : Char) (column : List Char) : List Char :=
  column.flatMap fun c => if c == quote || c == '\\' then ['\\', c] else [c]

inductive Written : List Char → String → Prop where
  | quoted {quote : Char} (column : String) : isQuote quote = true →
      Written (quote :: (escapedFor quote column.toList ++ [quote])) column
  | bare {column : String} : column ≠ "" →
      (∀ c ∈ column.toList, isSeparator c = false ∧ c ∉ ['"', '[', '(', '{']) →
      column.toList.head? ≠ some '\'' → Written column.toList column

/-- A line of columns with separators between them, and perhaps in front and at the end. -/
inductive Row : List Char → List String → Prop where
  | done {gap : List Char} : Gap gap → Row gap []
  | more {gap word rest : List Char} {column : String} {columns : List String} :
      Gap gap → Written word column → (∀ c ∈ rest.head?, isSeparator c = true) → Row rest columns →
      Row (gap ++ word ++ rest) (column :: columns)

/-! ## One column -/

theorem ne_backslash_of_isQuote {quote : Char} (isQuote : isQuote quote = true) : quote ≠ '\\' := by
  rintro rfl
  cases isQuote

/-- Inside quotes, what was escaped is read as it was, up to the closing quote. -/
theorem columns_escapedFor {quote : Char} (no_backslash : quote ≠ '\\') (column read rest : List Char) :
    (Position.quoted quote read).columns (escapedFor quote column ++ quote :: rest) =
      (Position.bare (column.reverse ++ read)).columns rest := by
  induction column generalizing read with
  | nil =>
    apply Position.columns_step
    simp [Position.step, no_backslash]
  | cons c column ih =>
    have onward := ih (c :: read)
    simp only [List.reverse_cons, List.append_assoc, List.singleton_append]
    rw [← onward]
    by_cases special : (c == quote || c == '\\') = true
    · -- the backslash and the character behind it are two steps
      have escape : (Position.quoted quote read).step '\\' = (.escaped quote read, none) := by
        simp [Position.step]
      have taken : (Position.escaped quote read).step c = (.quoted quote (c :: read), none) := rfl
      simp only [escapedFor, List.flatMap_cons, if_pos special, List.cons_append, List.nil_append]
      rw [Position.columns_step escape, Position.columns_step taken]
    · have taken : (Position.quoted quote read).step c = (.quoted quote (c :: read), none) := by
        simp only [Bool.or_eq_true, beq_iff_eq, not_or] at special
        simp [Position.step, special]
      simp only [escapedFor, List.flatMap_cons, if_neg special, List.cons_append, List.nil_append]
      rw [Position.columns_step taken]

theorem closer?_eq_none {c : Char} (plain : c ∉ ['"', '[', '(', '{']) : closer? c = none := by
  unfold closer?
  split <;> simp_all

theorem columns_plain {column : List Char}
    (plain : ∀ c ∈ column, isSeparator c = false ∧ c ∉ ['"', '[', '(', '{']) (read rest : List Char) :
    (Position.bare read).columns (column ++ rest) =
      (Position.bare (column.reverse ++ read)).columns rest := by
  induction column generalizing read with
  | nil => rfl
  | cons c column ih =>
    obtain ⟨⟨visible, plain⟩, others⟩ := List.forall_mem_cons.1 plain
    have no_quote : c ≠ '"' := by
      rintro rfl
      simp at plain
    have taken : (Position.bare read).step c = (.bare (c :: read), none) := by
      simp [Position.step, visible, no_quote, Position.push, closer?_eq_none plain]
    rw [List.cons_append, Position.columns_step taken, ih others]
    simp

theorem Written.columns {word : List Char} {column : String} (written : Written word column)
    (rest : List Char) :
    Position.between.columns (word ++ rest) = (Position.bare column.toList.reverse).columns rest := by
  cases written with
  | @quoted quote _ isQuote =>
    have opened : Position.between.step quote = (.quoted quote [], none) := by
      rcases isQuote_iff.1 isQuote with rfl | rfl <;> rfl
    rw [List.cons_append, List.append_assoc, Position.columns_step opened]
    have read := columns_escapedFor (ne_backslash_of_isQuote isQuote) column.toList [] rest
    rw [List.append_nil] at read
    exact read
  | bare some_char plain no_quote =>
    have some_char : column.toList ≠ [] := by simpa using some_char
    obtain ⟨c, others, text⟩ := List.exists_cons_of_ne_nil some_char
    rw [text] at plain no_quote ⊢
    obtain ⟨⟨visible, ordinary⟩, plain⟩ := List.forall_mem_cons.1 plain
    have no_double : c ≠ '"' := by
      rintro rfl
      simp at ordinary
    have no_single : c ≠ '\'' := by
      rintro rfl
      simp at no_quote
    have begun : Position.between.step c = (.bare [c], none) := by
      simp [Position.step, visible, no_double, no_single, Position.push, closer?_eq_none ordinary]
    rw [List.cons_append, Position.columns_step begun, columns_plain plain]
    simp

/-! ## Columns one behind the other -/

theorem Row.columns_eq {line : List Char} {columns : List String} (row : Row line columns) :
    Position.between.columns line = columns.map String.toList := by
  induction row with
  | done blank => exact columns_of_gap blank
  | more blank written apart _ ih =>
    rw [List.append_assoc, columns_gap blank, written.columns, columns_bare apart, ih,
      List.reverse_reverse]
    rfl

/-! ## No line of columns is an object -/

/-- The first character that is no blank is an opening brace. -/
def OpensObject (text : List Char) : Prop := (Unicode.trimStart text).head? = some '{'

theorem opensObject_of_looksLikeObject {line : String} (looks : looksLikeObject line = true) :
    OpensObject line.toList := by
  simp only [looksLikeObject, Bool.and_eq_true, beq_iff_eq] at looks
  obtain ⟨⟨_, first⟩, _⟩ := looks
  have front : Unicode.trim line.toList <+: Unicode.trimStart line.toList :=
    List.rdropWhile_prefix Unicode.isBlank (Unicode.trimStart line.toList)
  obtain ⟨rest, whole⟩ := front
  unfold OpensObject
  rw [← whole, List.head?_append, first]
  rfl

theorem not_opensObject_append {front rest : List Char} (no_brace : ∀ c ∈ front, c ≠ '{')
    (closed : ¬ OpensObject rest) : ¬ OpensObject (front ++ rest) := by
  induction front with
  | nil => exact closed
  | cons c front ih =>
    obtain ⟨other, no_brace⟩ := List.forall_mem_cons.1 no_brace
    unfold OpensObject Unicode.trimStart
    rw [List.cons_append, List.dropWhile_cons]
    split
    · exact ih no_brace
    · simpa using other

theorem Gap.ne_brace {gap : List Char} (blank : Gap gap) : ∀ c ∈ gap, c ≠ '{' := by
  rintro c member rfl
  cases blank _ member

theorem Written.not_opensObject {word rest : List Char} {column : String}
    (written : Written word column) (closed : ¬ OpensObject rest) : ¬ OpensObject (word ++ rest) := by
  cases written with
  | quoted _ isQuote =>
    rcases isQuote_iff.1 isQuote with rfl | rfl <;> rintro ⟨⟩
  | bare _ plain _ =>
    apply not_opensObject_append _ closed
    rintro c member rfl
    exact absurd (plain _ member).2 (by simp)

theorem Row.not_opensObject {line : List Char} {columns : List String} (row : Row line columns) :
    ¬ OpensObject line := by
  induction row with
  | @done gap blank =>
    rw [← List.append_nil gap]
    apply not_opensObject_append blank.ne_brace
    rintro ⟨⟩
  | more blank written _ _ ih =>
    rw [List.append_assoc]
    exact not_opensObject_append blank.ne_brace (written.not_opensObject ih)

/-- Splitting a line brings the columns that it was written from. -/
theorem ofLine_row {line : String} {columns : List String} (row : Row line.toList columns) :
    ofLine line = columns := by
  have plain : ¬ looksLikeObject line = true :=
    fun looks => row.not_opensObject (opensObject_of_looksLikeObject looks)
  rw [ofLine, if_neg plain, ofPlain_eq, row.columns_eq, List.map_map]
  simp

theorem ofLine_mixedRow :
    let line := "  \"say \\\"hi\\\" \x7b\" 'it\\'s'\tx'y\\z \"\"\r"
    let columns := ["say \"hi\" \x7b", "it's", "x'y\\z", ""]
    Row line.toList columns ∧ ofLine line = columns := by
  intro line columns
  have gap (gap : List Char) (blank : gap.all isSeparator = true) : Gap gap := List.all_eq_true.1 blank
  have bare : Written "x'y\\z".toList "x'y\\z" := .bare (by decide) (by simp [isSeparator]) (by decide)
  have last := Row.done (gap ['\r'] rfl)
  have fourth := Row.more (gap [' '] rfl) (@Written.quoted '"' "" rfl) (by rintro _ ⟨⟩; rfl) last
  have third := Row.more (gap ['\t'] rfl) bare (by rintro _ ⟨⟩; rfl) fourth
  have second := Row.more (gap [' '] rfl) (@Written.quoted '\'' "it's" rfl) (by rintro _ ⟨⟩; rfl) third
  have first := Row.more (gap [' ', ' '] rfl) (@Written.quoted '"' "say \"hi\" \x7b" rfl)
    (by rintro _ ⟨⟩; rfl) second
  obtain ⟨text, same, row⟩ : ∃ text, line.toList = text ∧ Row text columns :=
    ⟨_, by decide +kernel, first⟩
  rw [← same] at row
  exact ⟨row, ofLine_row row⟩

end LogQuery.Columns

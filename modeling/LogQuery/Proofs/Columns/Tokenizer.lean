import LogQuery.Columns.Split

/-! The columns that the rest of a line brings, told by where in the line the tokenizer stands.

The tokenizer gathers columns behind those that it has; here each position has columns of its own,
so that what is read of a line can be cut off its front. -/

set_option autoImplicit false

namespace LogQuery.Columns

def isQuote (c : Char) : Bool := c == '"' || c == '\''

theorem isQuote_iff {c : Char} : isQuote c = true ↔ c = '"' ∨ c = '\'' := by
  simp [isQuote]

namespace Position

/-- The columns that the rest of a line brings, with the one that is being read. -/
def columns (position : Position) (text : List Char) : List (List Char) := tokenizeFrom [] position text

theorem tokenizeFrom_eq (done : List (List Char)) (position : Position) (text : List Char) :
    tokenizeFrom done position text = (done.map List.reverse).reverse ++ position.columns text := by
  unfold columns
  induction text generalizing done position with
  | nil => simp [tokenizeFrom]
  | cons c rest ih =>
    simp only [tokenizeFrom]
    rw [ih, ih (_ ++ [])]
    simp

@[simp] theorem columns_nil (position : Position) :
    position.columns [] = position.finish.toList.map List.reverse := by
  cases h : position.finish <;> simp [columns, tokenizeFrom, h]

theorem columns_cons (position : Position) (c : Char) (rest : List Char) :
    position.columns (c :: rest) =
      (position.step c).2.toList.map List.reverse ++ (position.step c).1.columns rest := by
  have read : position.columns (c :: rest) =
      tokenizeFrom ((position.step c).2.toList ++ []) (position.step c).1 rest := rfl
  rw [read, tokenizeFrom_eq]
  cases (position.step c).2 <;> simp

theorem columns_step {position next : Position} {c : Char} (moved : position.step c = (next, none))
    (rest : List Char) : position.columns (c :: rest) = next.columns rest := by
  rw [columns_cons, moved]
  rfl

theorem columns_end {position next : Position} {c : Char} {column : List Char}
    (ended : position.step c = (next, some column)) (rest : List Char) :
    position.columns (c :: rest) = column.reverse :: next.columns rest := by
  rw [columns_cons, ended]
  rfl

end Position

theorem ofPlain_eq (line : String) :
    ofPlain line = (Position.between.columns line.toList).map String.ofList := by
  rw [ofPlain, tokenize, Position.columns]

def Gap (text : List Char) : Prop := ∀ c ∈ text, isSeparator c = true

theorem columns_gap {gap : List Char} (blank : Gap gap) (rest : List Char) :
    Position.between.columns (gap ++ rest) = Position.between.columns rest := by
  induction gap with
  | nil => rfl
  | cons c gap ih =>
    obtain ⟨separator, blank⟩ := List.forall_mem_cons.1 blank
    have moved : Position.between.step c = (.between, none) := by simp [Position.step, separator]
    rw [List.cons_append, Position.columns_step moved]
    exact ih blank

theorem columns_of_gap {gap : List Char} (blank : Gap gap) : Position.between.columns gap = [] := by
  rw [← List.append_nil gap, columns_gap blank]
  rfl

/-- Outside quotes and brackets, a column ends at a separator or with the line. -/
theorem columns_bare {rest : List Char} (apart : ∀ c ∈ rest.head?, isSeparator c = true)
    (read : List Char) :
    (Position.bare read).columns rest = read.reverse :: Position.between.columns rest := by
  cases rest with
  | nil => rfl
  | cons c rest =>
    have separator := apart c rfl
    have ended : (Position.bare read).step c = (.between, some read) := by
      simp [Position.step, separator]
    have passed : Position.between.step c = (.between, none) := by simp [Position.step, separator]
    rw [Position.columns_end ended, Position.columns_step passed]

end LogQuery.Columns

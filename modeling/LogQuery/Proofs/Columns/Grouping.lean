import LogQuery.Proofs.Columns.Tokenizer

/-! The tokenizer on text without quotes.

It is told by two things there, the brackets that are open and what there is of a column: a
separator outside brackets ends the column, and any other character goes on in it. So the columns
hold all of the text but separators outside brackets, and joined by spaces they come back. -/

set_option autoImplicit false

namespace LogQuery.Columns

/-- The closers that are awaited behind one more character, innermost first. A closer that is not
the innermost one closes nothing. -/
def awaitedAfter (awaited : List Char) (c : Char) : List Char :=
  match closer? c with
  | some closer => closer :: awaited
  | none => if awaited.head? = some c then awaited.tail else awaited

/-- The text less the separators that stand outside all brackets, where `awaited` are the closers of
the brackets that are open in front of it. -/
def withoutGaps (awaited : List Char) : List Char → List Char
  | [] => []
  | c :: rest =>
    if awaited = [] ∧ isSeparator c = true then withoutGaps awaited rest
    else c :: withoutGaps (awaitedAfter awaited c) rest

def Unquoted (text : List Char) : Prop := ∀ c ∈ text, isQuote c = false

namespace Position

def awaited : Position → List Char
  | between => []
  | bare _ => []
  | quoted _ _ => []
  | escaped _ _ => []
  | bracketed closer outer _ => closer :: outer

def held (position : Position) : List Char := position.finish.getD []

def IsUnquoted : Position → Prop
  | quoted _ _ => False
  | escaped _ _ => False
  | _ => True

theorem isUnquoted_between : between.IsUnquoted := trivial

def within (awaited column : List Char) : Position :=
  match awaited with
  | [] => bare column
  | closer :: outer => bracketed closer outer column

section

variable (closers column : List Char)

@[simp] theorem awaited_within : (within closers column).awaited = closers := by
  cases closers <;> rfl

@[simp] theorem finish_within : (within closers column).finish = some column := by
  cases closers <;> rfl

@[simp] theorem held_within : (within closers column).held = column := by
  rw [held, finish_within]
  rfl

@[simp] theorem isUnquoted_within : (within closers column).IsUnquoted := by
  cases closers <;> trivial

end

/-- All that one character can do outside quotes: a separator outside brackets ends the column, if
there is one, and any other character goes on in it or begins it. -/
theorem step_unquoted {position : Position} (unquoted : position.IsUnquoted) {c : Char}
    (plain : isQuote c = false) :
    (position.awaited = [] ∧ isSeparator c = true ∧
        position.step c = (between, position.finish)) ∨
      (¬(position.awaited = [] ∧ isSeparator c = true) ∧
        position.step c =
          (within (awaitedAfter position.awaited c) (c :: position.held), none)) := by
  have no_quote : (c == '"' || c == '\'') = false := plain
  have no_double : (c == '"') = false := (Bool.or_eq_false_iff.1 no_quote).1
  cases position with
  | between =>
    by_cases separator : isSeparator c = true
    · left
      simp [awaited, step, finish, separator]
    · right
      simp only [awaited, held, finish, step, separator, no_quote, push, awaitedAfter]
      cases closer? c <;> simp [within]
  | bare column =>
    by_cases separator : isSeparator c = true
    · left
      simp [awaited, step, finish, separator]
    · right
      simp only [awaited, held, finish, step, separator, no_double, push, awaitedAfter]
      cases closer? c <;> simp [within]
  | quoted _ _ => cases unquoted
  | escaped _ _ => cases unquoted
  | bracketed closer outer column =>
    right
    simp only [awaited, held, finish, step, awaitedAfter]
    cases closer? c with
    | some inner => simp [within]
    | none =>
      by_cases closes : c = closer
      · cases outer <;> simp [within, closes]
      · simp [within, closes, Ne.symm closes]

/-! ## What the columns hold -/

theorem flatten_finish (position : Position) :
    (position.finish.toList.map List.reverse).flatten = position.held.reverse := by
  unfold held
  cases position.finish <;> simp

/-- Nothing is lost but separators outside brackets. -/
theorem flatten_columns {position : Position} (unquoted : position.IsUnquoted) {text : List Char}
    (plain : Unquoted text) :
    (position.columns text).flatten = position.held.reverse ++ withoutGaps position.awaited text := by
  induction text generalizing position with
  | nil => rw [columns_nil, flatten_finish, withoutGaps, List.append_nil]
  | cons c rest ih =>
    obtain ⟨plain, plainRest⟩ := List.forall_mem_cons.1 plain
    rcases step_unquoted unquoted plain with ⟨outside, separator, ended⟩ | ⟨inside, moved⟩
    · have behind : (between.columns rest).flatten = withoutGaps [] rest := ih isUnquoted_between plainRest
      rw [columns_cons, ended, List.flatten_append, flatten_finish, behind, withoutGaps,
        if_pos ⟨outside, separator⟩, outside]
    · rw [columns_step moved, ih (isUnquoted_within _ _) plainRest, withoutGaps, if_neg inside]
      simp

theorem columns_ne_nil {position : Position} (unquoted : position.IsUnquoted)
    (begun : [] ∉ position.finish.toList) {text : List Char} (plain : Unquoted text) :
    [] ∉ position.columns text := by
  have kept {position : Position} (begun : [] ∉ position.finish.toList) :
      [] ∉ position.finish.toList.map List.reverse := by simpa using begun
  induction text generalizing position with
  | nil =>
    rw [columns_nil]
    exact kept begun
  | cons c rest ih =>
    obtain ⟨plain, plainRest⟩ := List.forall_mem_cons.1 plain
    rcases step_unquoted unquoted plain with ⟨_, _, ended⟩ | ⟨_, moved⟩
    · have behind : [] ∉ between.columns rest := ih isUnquoted_between List.not_mem_nil plainRest
      rw [columns_cons, ended, List.mem_append, not_or]
      exact ⟨kept begun, behind⟩
    · rw [columns_step moved]
      exact ih (isUnquoted_within _ _) (by simp) plainRest

/-! ## The columns of the joined columns -/

/-- Where the tokenizer stands is where it comes to by reading what it has of the column. -/
def Regains (position : Position) : Prop :=
  ∀ rest, between.columns (position.held.reverse ++ rest) = position.columns rest

theorem regains_between : Regains between := fun _ => rfl

theorem Regains.step {position next : Position} {c : Char} (regains : position.Regains)
    (moved : position.step c = (next, none)) (held : next.held = c :: position.held) :
    next.Regains := by
  intro rest
  rw [held, List.reverse_cons, List.append_assoc, List.singleton_append, regains]
  exact columns_step moved rest

theorem Regains.columns_joined {column : List Char} (regains : (bare column).Regains)
    {behind : List (List Char)} (again : between.columns ([' '].intercalate behind) = behind) :
    between.columns ([' '].intercalate (column.reverse :: behind)) = column.reverse :: behind := by
  obtain ⟨rest, joined, apart, read⟩ : ∃ rest,
      [' '].intercalate (column.reverse :: behind) = column.reverse ++ rest ∧
        (∀ c ∈ rest.head?, isSeparator c = true) ∧ between.columns rest = behind := by
    cases behind with
    | nil => exact ⟨[], by simp, by rintro _ ⟨⟩, rfl⟩
    | cons next behind =>
      refine ⟨[' '] ++ [' '].intercalate (next :: behind), by simp, ?_, ?_⟩
      · rintro _ ⟨⟩
        rfl
      · rw [columns_gap (by simp [Gap, isSeparator]), again]
  rw [joined, ← read, ← columns_bare apart]
  exact regains rest

/-- Columns that are joined by spaces are split at these spaces and nowhere else. -/
theorem columns_joined {position : Position} (unquoted : position.IsUnquoted)
    (regains : position.Regains) {text : List Char} (plain : Unquoted text) :
    between.columns ([' '].intercalate (position.columns text)) = position.columns text := by
  induction text generalizing position with
  | nil =>
    have joined : [' '].intercalate (position.columns []) = position.held.reverse := by
      rw [columns_nil, held]
      cases position.finish <;> simp
    rw [joined, ← List.append_nil position.held.reverse]
    exact regains []
  | cons c rest ih =>
    obtain ⟨plain, plainRest⟩ := List.forall_mem_cons.1 plain
    rcases step_unquoted unquoted plain with ⟨outside, _, ended⟩ | ⟨_, moved⟩
    · have behind : between.columns ([' '].intercalate (between.columns rest)) =
          between.columns rest := ih isUnquoted_between regains_between plainRest
      rw [columns_cons, ended]
      cases position with
      | between => exact behind
      | bare column => exact regains.columns_joined behind
      | quoted _ _ => cases unquoted
      | escaped _ _ => cases unquoted
      | bracketed _ _ _ => cases outside
    · rw [columns_step moved]
      exact ih (isUnquoted_within _ _) (regains.step moved (held_within _ _)) plainRest

end Position

/-! ## Lines -/

variable {line : String} (plain : Unquoted line.toList)

include plain

theorem flatten_ofPlain : (ofPlain line).flatMap String.toList = withoutGaps [] line.toList := by
  have flat : (Position.between.columns line.toList).flatten = withoutGaps [] line.toList :=
    Position.flatten_columns Position.isUnquoted_between plain
  rw [ofPlain_eq, List.flatMap_def, List.map_map, ← flat]
  simp

theorem empty_not_mem_ofPlain : "" ∉ ofPlain line := by
  have kept : [] ∉ Position.between.columns line.toList :=
    Position.columns_ne_nil Position.isUnquoted_between List.not_mem_nil plain
  rw [ofPlain_eq, List.mem_map]
  rintro ⟨column, member, empty⟩
  have nil : column = [] := by simpa using empty
  exact kept (nil ▸ member)

theorem ofPlain_joined : ofPlain (" ".intercalate (ofPlain line)) = ofPlain line := by
  have again : Position.between.columns ([' '].intercalate (Position.between.columns line.toList)) =
      Position.between.columns line.toList :=
    Position.columns_joined Position.isUnquoted_between Position.regains_between plain
  have joined : (" ".intercalate (ofPlain line)).toList =
      [' '].intercalate (Position.between.columns line.toList) := by
    rw [String.toList_intercalate, ofPlain_eq, List.map_map]
    simp
  rw [ofPlain_eq, joined, again, ofPlain_eq]

end LogQuery.Columns

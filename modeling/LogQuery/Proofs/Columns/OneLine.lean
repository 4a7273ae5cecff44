import LogQuery.Proofs.Columns.Grouping
import LogQuery.Proofs.Text.OneLine

/-! Which columns of a line have a line feed in them.

The characters of plain columns come from the line, and JSON text has none, as its strings are
written with escapes. What is left are strings that are members of an object: they become columns
bare, with what was escaped in the line. -/

set_option autoImplicit false

namespace LogQuery

open Text

/-! ## JSON text -/

namespace Json

theorem isOneLine_escapeChar (c : Char) : IsOneLine (escapeChar c) := by
  by_cases feed : c = '\n'
  · rw [feed]
    decide
  · have hex : ∀ code < 0x20, IsOneLine (String.ofList (Nat.toDigits 16 code)) := by decide
    unfold escapeChar
    repeat' split
    case isTrue control =>
      exact isOneLine_append.2 ⟨by decide, isOneLine_padLeft (by decide) (hex _ control)⟩
    case isFalse =>
      rw [IsOneLine, Char.toString_eq_singleton, String.toList_singleton, List.mem_singleton]
      exact Ne.symm feed
    all_goals decide

theorem isOneLine_stringText (s : String) : IsOneLine (stringText s) := by
  simp only [stringText, isOneLine_append]
  refine ⟨⟨by decide, isOneLine_join.2 fun text listed => ?_⟩, by decide⟩
  obtain ⟨c, -, rfl⟩ := List.mem_map.1 listed
  exact isOneLine_escapeChar c

theorem isOneLine_decimalText (d : Decimal.Scientific) : IsOneLine (decimalText d) := by
  have digits : '\n' ∉ (toString d.digits).toList := isOneLine_toString d.digits
  have front (n : Nat) : '\n' ∉ (toString d.digits).toList.take n := mt List.mem_of_mem_take digits
  have back (n : Nat) : '\n' ∉ (toString d.digits).toList.drop n := mt List.mem_of_mem_drop digits
  have zeros (n : Nat) : '\n' ∉ List.replicate n '0' := fun fed => by
    cases List.eq_of_mem_replicate fed
  have signs : '\n' ≠ '.' ∧ IsOneLine ".0" ∧ IsOneLine "0." ∧ IsOneLine "e" ∧ IsOneLine "-" ∧
      IsOneLine "+" := by decide
  unfold decimalText
  dsimp only
  repeat' split
  all_goals simp only [isOneLine_append, isOneLine_ofList, List.mem_append, List.mem_cons,
    List.not_mem_nil, isOneLine_toString, digits, front, back, zeros, signs, or_self, not_false_eq_true,
    and_self]

theorem isOneLine_floatText (value : Float) : IsOneLine (floatText value) := by
  have sign : IsOneLine (if value.toBits.toNat ≥ signedLimit then "-" else "") := by
    split <;> decide
  unfold floatText
  dsimp only
  split
  · exact isOneLine_append.2 ⟨sign, by decide⟩
  · exact isOneLine_append.2 ⟨sign, isOneLine_decimalText _⟩

theorem isOneLine_integer (n : Int) : IsOneLine (toString n) := by
  cases n with
  | ofNat n => exact isOneLine_toString n
  | negSucc n => exact isOneLine_append.2 ⟨by decide, isOneLine_toString (n + 1)⟩

mutual

theorem isOneLine_text (value : Value) : IsOneLine value.text := by
  cases value with
  | null => decide
  | bool value => cases value <;> decide
  | integer n => exact isOneLine_integer n
  | float x => exact isOneLine_floatText x
  | string s => exact isOneLine_stringText s
  | array items =>
    simp only [Value.text, isOneLine_append]
    exact ⟨⟨by decide, isOneLine_intercalate (by decide) (isOneLine_itemTexts items)⟩, by decide⟩
  | object members =>
    simp only [Value.text, isOneLine_append]
    exact ⟨⟨by decide, isOneLine_intercalate (by decide) (isOneLine_memberTexts members)⟩, by decide⟩

theorem isOneLine_itemTexts (items : List Value) : ∀ text ∈ itemTexts items, IsOneLine text := by
  cases items with
  | nil => nofun
  | cons item items =>
    rw [itemTexts, List.forall_mem_cons]
    exact ⟨isOneLine_text item, isOneLine_itemTexts items⟩

theorem isOneLine_memberTexts (members : List (String × Value)) :
    ∀ text ∈ memberTexts members, IsOneLine text := by
  cases members with
  | nil => nofun
  | cons member members =>
    obtain ⟨key, value⟩ := member
    rw [memberTexts, List.forall_mem_cons]
    simp only [isOneLine_append]
    exact ⟨⟨⟨isOneLine_stringText key, by decide⟩, isOneLine_text value⟩, isOneLine_memberTexts members⟩

end

end Json

/-! ## Columns -/

namespace Columns

namespace Position

theorem held_push (c : Char) (column : List Char) : (push c column).held = c :: column := by
  unfold push
  split <;> rfl

theorem ended_step {position : Position} {c : Char} {column : List Char}
    (ended : (position.step c).2 = some column) : column = position.held := by
  cases position <;> simp only [step] at ended
  all_goals repeat' split at ended
  all_goals cases ended
  all_goals rfl

theorem held_step (position : Position) (c : Char) :
    (position.step c).1.held ⊆ c :: position.held := by
  cases position <;> simp only [step]
  all_goals repeat' split
  all_goals first
    | exact List.nil_subset _
    | exact List.Subset.refl _
    | exact List.subset_cons_self _ _
    | exact fun _ member => held_push .. ▸ member

theorem mem_of_mem_columns {position : Position} {text column : List Char}
    (listed : column ∈ position.columns text) {c : Char} (member : c ∈ column) :
    c ∈ position.held ∨ c ∈ text := by
  induction text generalizing position with
  | nil =>
    rw [columns_nil] at listed
    obtain ⟨held, finished, rfl⟩ := List.mem_map.1 listed
    rw [Option.mem_toList] at finished
    rw [Position.held, finished]
    exact .inl (List.mem_reverse.1 member)
  | cons d rest ih =>
    rw [columns_cons, List.mem_append] at listed
    obtain here | further := listed
    · obtain ⟨held, ended, rfl⟩ := List.mem_map.1 here
      rw [Option.mem_toList] at ended
      rw [← ended_step ended]
      exact .inl (List.mem_reverse.1 member)
    · obtain held | behind := ih further
      · obtain rfl | before := List.mem_cons.1 (held_step position d held)
        · exact .inr List.mem_cons_self
        · exact .inl before
      · exact .inr (List.mem_cons_of_mem _ behind)

end Position

theorem isOneLine_ofPlain {line : String} (single : IsOneLine line) :
    ∀ column ∈ ofPlain line, IsOneLine column := by
  intro column listed
  rw [ofPlain_eq] at listed
  obtain ⟨chars, read, rfl⟩ := List.mem_map.1 listed
  rw [isOneLine_ofList]
  intro fed
  obtain nothing | within := Position.mem_of_mem_columns read fed
  · cases nothing
  · exact single within

def StringFeeds (line : String) : Prop :=
  looksLikeObject line = true ∧ ∃ members key text,
    Json.Value.parse? (Unicode.trim line.toList) = some (.object members) ∧
      (key, .string text) ∈ members ∧ ¬ IsOneLine text

theorem not_isOneLine_ofValue {value : Json.Value} (fed : ¬ IsOneLine (ofValue value)) :
    ∃ text, value = .string text ∧ ¬ IsOneLine text := by
  cases value with
  | string text => exact ⟨text, rfl, fed⟩
  | _ => exact absurd (Json.isOneLine_text _) fed

/-- A line brings a line feed into a column only as the text of a member. -/
theorem exists_column_iff {line : String} (single : IsOneLine line) :
    (∃ column ∈ ofLine line, ¬ IsOneLine column) ↔ StringFeeds line := by
  have plain : ¬ ∃ column ∈ ofPlain line, ¬ IsOneLine column := by
    rintro ⟨column, listed, fed⟩
    exact fed (isOneLine_ofPlain single column listed)
  unfold ofLine
  split
  next looks =>
    by_cases object : ∃ members,
        Json.Value.parse? (Unicode.trim line.toList) = some (.object members)
    · obtain ⟨members, read⟩ := object
      have columns : ofObject? line = some (members.map fun member => ofValue member.2) := by
        rw [ofObject?, read]
      rw [columns, Option.getD_some]
      constructor
      · rintro ⟨column, listed, fed⟩
        obtain ⟨⟨key, value⟩, member, rfl⟩ := List.mem_map.1 listed
        obtain ⟨text, rfl, fed⟩ := not_isOneLine_ofValue fed
        exact ⟨looks, members, key, text, read, member, fed⟩
      · rintro ⟨-, others, key, text, readOthers, member, fed⟩
        cases read.symm.trans readOthers
        exact ⟨text, List.mem_map.2 ⟨_, member, rfl⟩, fed⟩
    · -- it only looks like an object, and is split as plain text
      have others : ofObject? line = none := by
        unfold ofObject?
        split
        next members read => exact absurd ⟨members, read⟩ object
        next => rfl
      rw [others]
      refine iff_of_false plain ?_
      rintro ⟨-, members, -, -, read, -⟩
      exact object ⟨members, read⟩
  next looks => exact iff_of_false plain fun feeds => looks feeds.1

end Columns

end LogQuery

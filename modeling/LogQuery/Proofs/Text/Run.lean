import Mathlib.Data.List.TakeWhile
import LogQuery.Text.Basic
import LogQuery.Unicode.Basic

/-! Runs of characters of one kind, which a reader takes or skips up to one of another kind. -/

set_option autoImplicit false

namespace LogQuery.Text

/-- No character of the kind `p` stands in front. -/
def Stops (p : Char → Bool) (text : List Char) : Prop := ∀ c ∈ text.head?, p c = false

section

variable {p : Char → Bool}

theorem stops_nil (p : Char → Bool) : Stops p [] := by
  rintro c ⟨⟩

theorem stops_cons {c : Char} (other : p c = false) (text : List Char) : Stops p (c :: text) := by
  rintro _ ⟨⟩
  exact other

/-- A text is a run of characters of the kind `p` and what is left when it is skipped. -/
theorem exists_run (p : Char → Bool) (text : List Char) :
    ∃ run, (∀ c ∈ run, p c = true) ∧ text = run ++ text.dropWhile p :=
  ⟨_, fun _ member => List.mem_takeWhile_imp member, List.takeWhile_append_dropWhile.symm⟩

theorem takeWhile_of_stops {rest : List Char} (stops : Stops p rest) : rest.takeWhile p = [] := by
  cases rest with
  | nil => rfl
  | cons c rest => rw [List.takeWhile_cons, if_neg (Bool.eq_false_iff.1 (stops c rfl))]

theorem dropWhile_of_stops {rest : List Char} (stops : Stops p rest) :
    rest.dropWhile p = rest := by
  cases rest with
  | nil => rfl
  | cons c rest => rw [List.dropWhile_cons, if_neg (Bool.eq_false_iff.1 (stops c rfl))]

variable {word rest : List Char} (all : ∀ c ∈ word, p c = true) (stops : Stops p rest)

include all stops

theorem takeWhile_stops : (word ++ rest).takeWhile p = word := by
  rw [List.takeWhile_append_of_pos all, takeWhile_of_stops stops, List.append_nil]

theorem dropWhile_stops : (word ++ rest).dropWhile p = rest := by
  rw [List.dropWhile_append_of_pos all, dropWhile_of_stops stops]

theorem append_inj_of_stops {other behind : List Char} (allOther : ∀ c ∈ other, p c = true)
    (stopsBehind : Stops p behind) (same : word ++ rest = other ++ behind) :
    word = other ∧ rest = behind := by
  have front := takeWhile_stops all stops
  have back := dropWhile_stops all stops
  rw [same, takeWhile_stops allOther stopsBehind] at front
  rw [same, dropWhile_stops allOther stopsBehind] at back
  exact ⟨front.symm, back.symm⟩

end

/-! ### Blanks -/

theorem trimStart_blank {gap text : List Char} (blank : ∀ c ∈ gap, Unicode.isBlank c = true)
    (stops : Stops Unicode.isBlank text) : Unicode.trimStart (gap ++ text) = text :=
  dropWhile_stops blank stops

theorem trimStart_of_stops {text : List Char} (stops : Stops Unicode.isBlank text) :
    Unicode.trimStart text = text := dropWhile_of_stops stops

theorem isDigit_blank {c : Char} (blank : Unicode.isBlank c = true) : c.isDigit = false := by
  rw [Bool.eq_false_iff]
  intro digit
  simp only [Char.isDigit, Bool.and_eq_true, decide_eq_true_eq, ge_iff_le,
    UInt32.le_iff_toNat_le] at digit
  simp only [Unicode.isBlank, Char.toNat, Bool.or_eq_true, Bool.and_eq_true, decide_eq_true_eq,
    beq_iff_eq] at blank
  have bounds : 48 ≤ c.val.toNat ∧ c.val.toNat ≤ 57 := digit
  omega

/-! ### Digits -/

theorem isDigit_of_mem_toDigits {n : Nat} : ∀ c ∈ Nat.toDigits 10 n, c.isDigit = true :=
  fun _ => Nat.isDigit_of_mem_toDigits (by decide) (by decide)

theorem readDigits?_digits {digits : List Char} (some_digit : digits ≠ [])
    (all : ∀ c ∈ digits, c.isDigit = true) :
    readDigits? digits = some (Nat.ofDigitChars 10 digits 0) := by
  have fold : ∀ value, digits.foldlM (fun value c => (digitValue? c).map (value * 10 + ·)) value =
      some (Nat.ofDigitChars 10 digits value) := by
    clear some_digit
    induction digits with
    | nil => exact fun _ => rfl
    | cons c digits ih =>
      intro value
      rw [List.forall_mem_cons] at all
      rw [List.foldlM_cons, digitValue?, if_pos all.1, Nat.ofDigitChars_cons, Nat.mul_comm 10]
      exact ih all.2 _
  cases digits with
  | nil => exact absurd rfl some_digit
  | cons c digits => exact fold 0

theorem isDigit_of_digitValue? {c : Char} {n : Nat} (value : digitValue? c = some n) :
    c.isDigit = true := by
  rw [digitValue?] at value
  split at value
  · assumption
  · cases value

theorem isDigit_of_foldlM {text : List Char} {value n : Nat}
    (read : text.foldlM (fun value c => (digitValue? c).map (value * 10 + ·)) value = some n) :
    ∀ c ∈ text, c.isDigit = true := by
  induction text generalizing value with
  | nil => rintro c ⟨⟩
  | cons c text ih =>
    rw [List.foldlM_cons, Option.bind_eq_bind, Option.bind_eq_some_iff] at read
    obtain ⟨_, first, rest⟩ := read
    obtain ⟨_, value, _⟩ := Option.map_eq_some_iff.1 first
    exact List.forall_mem_cons.2 ⟨isDigit_of_digitValue? value, ih rest⟩

theorem readDigits?_eq_some_iff {text : List Char} {n : Nat} :
    readDigits? text = some n ↔
      text ≠ [] ∧ (∀ c ∈ text, c.isDigit = true) ∧ Nat.ofDigitChars 10 text 0 = n := by
  constructor
  · intro read
    cases text with
    | nil => cases read
    | cons c text =>
      have all : ∀ d ∈ c :: text, d.isDigit = true := isDigit_of_foldlM read
      rw [readDigits?_digits (List.cons_ne_nil c text) all] at read
      exact ⟨List.cons_ne_nil c text, all, Option.some_inj.1 read⟩
  · rintro ⟨some_digit, all, rfl⟩
    exact readDigits?_digits some_digit all

theorem readWord?_digits {digits : List Char} (some_digit : digits ≠ [])
    (all : ∀ c ∈ digits, c.isDigit = true) :
    readWord? digits = (some (Nat.ofDigitChars 10 digits 0)).filter (· < wordLimit) := by
  rw [← readDigits?_digits some_digit all, readWord?]
  rintro rest rfl
  exact absurd (all '+' List.mem_cons_self) (by decide)

end LogQuery.Text

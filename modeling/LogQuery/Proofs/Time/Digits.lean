import LogQuery.Proofs.Text.Run
import LogQuery.Time.Reading

/-! Numbers written with a fixed count of decimal digits are read as they were. -/

set_option autoImplicit false

namespace LogQuery.Time

open Text (Stops)

def digits : (count : Nat) → Nat → List Char
  | 0, _ => []
  | count + 1, n => digits count (n / 10) ++ [Nat.digitChar (n % 10)]

@[simp] theorem length_digits (count n : Nat) : (digits count n).length = count := by
  induction count generalizing n with
  | zero => rfl
  | succ count ih => simp [digits, ih]

theorem isDigit_of_mem_digits {count n : Nat} : ∀ c ∈ digits count n, c.isDigit = true := by
  induction count generalizing n with
  | zero => simp [digits]
  | succ count ih =>
    rw [digits, List.forall_mem_append, List.forall_mem_singleton, Nat.isDigit_digitChar]
    exact ⟨ih, decide_eq_true (Nat.mod_lt n (by decide))⟩

theorem digits_ne_nil {count : Nat} (pos : 0 < count) (n : Nat) : digits count n ≠ [] :=
  List.length_pos_iff.1 ((length_digits count n).symm ▸ pos)

theorem ne_of_isDigit {c d : Char} (digit : c.isDigit = true) (other : d.isDigit = false) :
    c ≠ d := by
  rintro rfl
  exact Bool.eq_false_iff.1 other digit

theorem ofDigitChars_digits {count n : Nat} (small : n < Nat.pow 10 count) :
    Nat.ofDigitChars 10 (digits count n) 0 = n := by
  induction count generalizing n with
  | zero => exact (Nat.lt_one_iff.1 small).symm
  | succ count ih =>
    have front : n / 10 < Nat.pow 10 count := Nat.div_lt_of_lt_mul (Nat.mul_comm .. ▸ small)
    rw [digits, Nat.ofDigitChars_append, ih front,
      Nat.ofDigitChars_cons_digitChar_of_lt_ten (Nat.mod_lt n (by decide)), Nat.ofDigitChars_nil]
    omega

theorem readDigits?_written {count n : Nat} (pos : 0 < count) (small : n < Nat.pow 10 count) :
    Text.readDigits? (digits count n) = some n := by
  rw [Text.readDigits?_digits (digits_ne_nil pos n) isDigit_of_mem_digits,
    ofDigitChars_digits small]

/-- Digits are taken as far as allowed, or up to what stands behind them. -/
theorem takeDigits_run {most : Nat} {word rest : List Char} (all : ∀ c ∈ word, c.isDigit = true)
    (few : word.length ≤ most) (ends : word.length = most ∨ Stops Char.isDigit rest) :
    takeDigits most (word ++ rest) = (word, rest) := by
  induction word generalizing most with
  | nil =>
    cases most with
    | zero => rfl
    | succ most =>
      cases rest with
      | nil => rfl
      | cons c rest =>
        have stops : c.isDigit = false := ends.resolve_left (Nat.succ_ne_zero most).symm c rfl
        simp [takeDigits, stops]
  | cons c word ih =>
    rw [List.forall_mem_cons] at all
    cases most with
    | zero => cases few
    | succ most =>
      have inner := ih all.2 (Nat.le_of_succ_le_succ few) (ends.imp_left Nat.succ.inj)
      simp [takeDigits, all.1, inner]

theorem readNumber_digits {most count n : Nat} {rest : List Char} (pos : 0 < count)
    (small : n < Nat.pow 10 count) (few : count ≤ most)
    (ends : count = most ∨ Stops Char.isDigit rest) :
    readNumber most (digits count n ++ rest) = some (n, rest) := by
  have taken : takeDigits most (digits count n ++ rest) = (digits count n, rest) :=
    takeDigits_run isDigit_of_mem_digits (by simpa using few) (by simpa using ends)
  simp [readNumber, taken, readDigits?_written pos small]

theorem stops_digits {p : Char → Bool} (none_digit : ∀ c, c.isDigit = true → p c = false)
    {count : Nat} (pos : 0 < count) (n : Nat) (rest : List Char) :
    Stops p (digits count n ++ rest) := by
  obtain ⟨c, word, written⟩ := List.exists_cons_of_ne_nil (digits_ne_nil pos n)
  have digit : c.isDigit = true := isDigit_of_mem_digits c (written ▸ List.mem_cons_self)
  rw [written]
  exact Text.stops_cons (none_digit c digit) _

theorem head?_digits_ne {count : Nat} (pos : 0 < count) {c : Char} (other : c.isDigit = false)
    (n : Nat) (rest : List Char) : (digits count n ++ rest).head? ≠ some c := by
  intro first
  have stops := stops_digits (p := fun d => !d.isDigit) (by simp) pos n rest c first
  simp [other] at stops

theorem not_isBlank_of_isDigit {c : Char} (digit : c.isDigit = true) :
    Unicode.isBlank c = false := by
  rw [Bool.eq_false_iff]
  exact fun blank => absurd digit (Bool.eq_false_iff.1 (Text.isDigit_blank blank))

@[simp] theorem trimStart_digits {count : Nat} (pos : 0 < count) (n : Nat) (rest : List Char) :
    Unicode.trimStart (digits count n ++ rest) = digits count n ++ rest :=
  Text.trimStart_of_stops (stops_digits (fun _ => not_isBlank_of_isDigit) pos n rest)

end LogQuery.Time

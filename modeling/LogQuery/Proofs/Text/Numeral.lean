import LogQuery.Proofs.Text.Run

/-! Numbers with zeros in front of them are told from their text. -/

set_option autoImplicit false

namespace LogQuery.Text

variable {width n m : Nat}

theorem length_padLeft (width : Nat) (fill : Char) (text : String) :
    (padLeft width fill text).length = max width text.length := by
  rw [padLeft, String.length_append, String.length_ofList, List.length_replicate]
  omega

theorem length_zeroPadded (wide : 0 < width) (fits : n < Nat.pow 10 width) :
    (zeroPadded width n).length = width := by
  have short : (toString n).length ≤ width := (Nat.length_repr_le_iff wide).2 fits
  rw [zeroPadded, length_padLeft, Nat.max_eq_left short]

theorem toList_zeroPadded (width n : Nat) :
    (zeroPadded width n).toList =
      List.replicate (width - (toString n).length) '0' ++ Nat.toDigits 10 n := by
  rw [zeroPadded, padLeft, String.toList_append, String.toList_ofList]
  exact congrArg _ Nat.toList_repr

theorem isDigit_of_mem_zeroPadded : ∀ c ∈ (zeroPadded width n).toList, c.isDigit = true := by
  rw [toList_zeroPadded, List.forall_mem_append]
  refine ⟨fun c member => ?_, isDigit_of_mem_toDigits⟩
  rw [List.eq_of_mem_replicate member]
  rfl

theorem ofDigitChars_zeroPadded : Nat.ofDigitChars 10 (zeroPadded width n).toList 0 = n := by
  rw [toList_zeroPadded, Nat.ofDigitChars_append, Nat.ofDigitChars_replicate_zero, Nat.mul_zero,
    Nat.ofDigitChars_ten_toDigits]

theorem stops_zeroPadded (rest : List Char) :
    Stops (fun c => !c.isDigit) ((zeroPadded width n).toList ++ rest) := by
  have some_digit : (zeroPadded width n).toList ≠ [] := by
    rw [toList_zeroPadded]
    exact fun none_there => Nat.toDigits_ne_nil (List.append_eq_nil_iff.1 none_there).2
  obtain ⟨c, further, written⟩ := List.exists_cons_of_ne_nil some_digit
  have digit : c.isDigit = true := isDigit_of_mem_zeroPadded c (written ▸ List.mem_cons_self)
  rw [written]
  exact stops_cons (by rw [digit]; rfl) _

/-- The number is told where something other than a digit stands behind it. -/
theorem zeroPadded_append_inj {rest behind : List Char} (stops : Stops Char.isDigit rest)
    (stopsBehind : Stops Char.isDigit behind)
    (same : (zeroPadded width n).toList ++ rest = (zeroPadded width m).toList ++ behind) :
    n = m ∧ rest = behind := by
  obtain ⟨word, back⟩ :=
    append_inj_of_stops isDigit_of_mem_zeroPadded stops isDigit_of_mem_zeroPadded stopsBehind same
  have value := congrArg (Nat.ofDigitChars 10 · 0) word
  simp only [ofDigitChars_zeroPadded] at value
  exact ⟨value, back⟩

/-! ### Zeros in front -/

theorem digitChar_sub {c : Char} (digit : c.isDigit = true) :
    Nat.digitChar (c.toNat - '0'.toNat) = c ∧ c.toNat - '0'.toNat < 10 := by
  simp only [Char.isDigit, Bool.and_eq_true, decide_eq_true_eq, ge_iff_le,
    UInt32.le_iff_toNat_le] at digit
  have bounds : 48 ≤ c.toNat ∧ c.toNat ≤ 57 := digit
  have zero : '0'.toNat = 48 := rfl
  have small : c.toNat - '0'.toNat < 10 := by omega
  refine ⟨Char.toNat_inj.1 ?_, small⟩
  rw [Nat.toNat_digitChar_of_lt_ten small]
  omega

theorem toDigits_ofDigitChars {digits : List Char} (all : ∀ c ∈ digits, c.isDigit = true) {n : Nat}
    (pos : 0 < n) :
    Nat.toDigits 10 (Nat.ofDigitChars 10 digits n) = Nat.toDigits 10 n ++ digits := by
  induction digits generalizing n with
  | nil => simp
  | cons c digits ih =>
    rw [List.forall_mem_cons] at all
    obtain ⟨same, small⟩ := digitChar_sub all.1
    have longer := Nat.toDigits_append_toDigits (b := 10) (by decide) pos small
    rw [Nat.toDigits_of_lt_base small, same] at longer
    rw [Nat.ofDigitChars_cons, ih all.2 (by omega), ← longer, List.append_assoc]
    rfl

/-- Digits are the numeral of their number with zeros in front of it. -/
theorem exists_zeros {digits : List Char} (some_digit : digits ≠ [])
    (all : ∀ c ∈ digits, c.isDigit = true) :
    ∃ zeros, digits =
      List.replicate zeros '0' ++ Nat.toDigits 10 (Nat.ofDigitChars 10 digits 0) := by
  induction digits with
  | nil => exact absurd rfl some_digit
  | cons c digits ih =>
    rw [List.forall_mem_cons] at all
    by_cases zero : c = '0'
    · subst zero
      have skipped : Nat.ofDigitChars 10 ('0' :: digits) 0 = Nat.ofDigitChars 10 digits 0 :=
        Nat.ofDigitChars_cons
      rw [skipped]
      by_cases last : digits = []
      · subst last
        exact ⟨0, rfl⟩
      · obtain ⟨zeros, written⟩ := ih last all.2
        exact ⟨zeros + 1, by rw [List.replicate_succ, List.cons_append, ← written]⟩
    · -- the numeral begins here
      obtain ⟨same, small⟩ := digitChar_sub all.1
      have pos : 0 < c.toNat - '0'.toNat := by
        refine Nat.pos_of_ne_zero fun none_left => zero ?_
        rw [← same, none_left]
        rfl
      refine ⟨0, ?_⟩
      rw [Nat.ofDigitChars_cons, Nat.mul_zero, Nat.zero_add, toDigits_ofDigitChars all.2 pos,
        Nat.toDigits_of_lt_base small, same]
      rfl

end LogQuery.Text

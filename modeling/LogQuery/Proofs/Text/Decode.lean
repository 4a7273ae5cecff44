import LogQuery.Text.Decode

/-! Where the text of some bytes is cut when the bytes are.

A character of a text is made of just its own bytes, which no bytes behind them change. So what can
be read of the text of a few bytes in front can be read of the whole text too, and whatever is short
enough of the whole text can be read of those few.
-/

set_option autoImplicit false

namespace LogQuery.Text

def weight (c : Char) : Nat := if c.toNat < 128 then 1 else 4

def weightOf : List Char → Nat
  | [] => 0
  | c :: text => weight c + weightOf text

def valuesOf : Nat → Nat
  | 0 => 1
  | count + 1 => 64 * valuesOf count

theorem takeContinuations_zero {count bits bits' : Nat} {bytes rest : List UInt8}
    (found : takeContinuations count bits bytes = (0, bits', rest)) :
    ∃ middle, bytes = middle ++ rest ∧ middle.length = count ∧
      bits * valuesOf count ≤ bits' ∧ bits' < (bits + 1) * valuesOf count ∧
      ∀ more, takeContinuations count bits (middle ++ more) = (0, bits', more) := by
  induction count generalizing bits bytes with
  | zero =>
    simp only [takeContinuations, Prod.mk.injEq, true_and] at found
    obtain ⟨rfl, rfl⟩ := found
    exact ⟨[], rfl, rfl, by simp [valuesOf], by simp [valuesOf], fun _ => by simp [takeContinuations]⟩
  | succ count ih =>
    cases bytes with
    | nil => simp [takeContinuations] at found
    | cons b bytes =>
      rw [takeContinuations] at found
      split at found
      · rename_i continues
        obtain ⟨middle, rfl, length, lower, upper, again⟩ := ih found
        refine ⟨b :: middle, rfl, by rw [List.length_cons, length], ?_, ?_, fun more => ?_⟩
        · rw [valuesOf]
          calc bits * (64 * valuesOf count) = bits * 64 * valuesOf count := (Nat.mul_assoc ..).symm
            _ ≤ (bits * 64 + b.toNat % 64) * valuesOf count := Nat.mul_le_mul_right _ (by omega)
            _ ≤ bits' := lower
        · rw [valuesOf]
          calc bits' < (bits * 64 + b.toNat % 64 + 1) * valuesOf count := upper
            _ ≤ ((bits + 1) * 64) * valuesOf count := Nat.mul_le_mul_right _ (by omega)
            _ = (bits + 1) * (64 * valuesOf count) := Nat.mul_assoc ..
        · rw [List.cons_append, takeContinuations, if_pos continues, again]
      · simp at found

/-- What the first two bytes of a character tell about its bits: with any continuation they are
those of a character beyond ASCII. -/
theorem leadByte?_bounds {b second least most : UInt8} {following bits : Nat}
    (lead : leadByte? b = some (following, least, most)) (lower : least ≤ second)
    (upper : second ≤ most)
    (bits_ge : (leadBits b following * 64 + second.toNat % 64) * valuesOf (following - 1) ≤ bits)
    (bits_lt : bits < (leadBits b following * 64 + second.toNat % 64 + 1) * valuesOf (following - 1)) :
    following ≤ 3 ∧ 128 ≤ (Char.ofNat bits).toNat := by
  have valid (range : 128 ≤ bits ∧ (bits < 0xD800 ∨ 0xDFFF < bits ∧ bits < 0x110000)) :
      128 ≤ (Char.ofNat bits).toNat := by
    rw [Char.ofNat, dif_pos range.2]
    exact range.1
  rw [UInt8.le_iff_toNat_le] at lower upper
  unfold leadByte? at lead
  simp only [Bool.and_eq_true, decide_eq_true_eq, beq_iff_eq, UInt8.le_iff_toNat_le,
    ← UInt8.toNat_inj] at lead
  repeat' split at lead
  all_goals try (cases lead; done)
  -- one goal for each kind of first byte
  all_goals
    simp only [Option.some.injEq, Prod.mk.injEq] at lead
    obtain ⟨rfl, rfl, rfl⟩ := lead
    simp only [leadBits, valuesOf, UInt8.reduceToNat, Nat.reduceSub, Nat.reducePow, Nat.pow_eq] at *
    refine ⟨by omega, valid ?_⟩
    omega

theorem nextChar_some {b : UInt8} {bytes rest : List UInt8} {c : Char}
    (found : nextChar b bytes = (some c, rest)) :
    ∃ middle, bytes = middle ++ rest ∧ middle.length < weight c ∧
      ∀ more, nextChar b (middle ++ more) = (some c, more) := by
  unfold nextChar at found
  split at found
  · rename_i ascii
    simp only [Prod.mk.injEq, Option.some.injEq] at found
    obtain ⟨rfl, rfl⟩ := found
    refine ⟨[], rfl, ?_, fun more => by rw [nextChar, if_pos ascii]; rfl⟩
    rw [weight]
    split <;> simp
  · rename_i notAscii
    split at found
    · simp at found
    · rename_i following least most lead
      split at found
      · simp at found
      · rename_i second tail
        split at found
        · rename_i fits
          dsimp only at found
          split at found
          · rename_i bits tail' continued
            simp only [Prod.mk.injEq, Option.some.injEq] at found
            obtain ⟨rfl, rfl⟩ := found
            obtain ⟨middle, rfl, length, lower, upper, again⟩ := takeContinuations_zero continued
            have both := fits
            simp only [Bool.and_eq_true, decide_eq_true_eq] at both
            -- with more than one byte the character lies beyond ASCII, and so weighs enough
            obtain ⟨short, foreign⟩ := leadByte?_bounds lead both.1 both.2 lower upper
            refine ⟨second :: middle, rfl, ?_, fun more => ?_⟩
            · rw [weight, if_neg (by omega), List.length_cons]
              omega
            · rw [nextChar, if_neg notAscii, lead]
              simp only [List.cons_append, if_pos fits, again]
          · simp at found
        · simp at found

theorem take_middle {bytes middle rest : List UInt8} {count : Nat}
    (cut : bytes.take count = middle ++ rest) :
    ∃ more, bytes = middle ++ more ∧ rest = more.take (count - middle.length) := by
  obtain ⟨more, rfl⟩ : middle <+: bytes :=
    (List.prefix_append middle rest).trans (cut ▸ List.take_prefix count bytes)
  have lengths := congrArg List.length cut
  simp only [List.length_take, List.length_append] at lengths
  rw [List.take_append, List.take_of_length_le (by omega)] at cut
  exact ⟨more, rfl, (List.append_cancel_left cut).symm⟩

section Prefixes

variable {text : List Char}

theorem first_of_prefix {c : Char} {b : UInt8} {bytes : List UInt8} (proper : replacement ≠ c)
    (read : c :: text <+: decodeLossy (b :: bytes)) :
    ∃ rest, nextChar b bytes = (some c, rest) ∧ text <+: decodeLossy rest := by
  rw [decodeLossy_cons] at read
  obtain ⟨same, read⟩ := List.cons_prefix_cons.1 read
  rcases step : nextChar b bytes with ⟨_ | c', rest⟩
  · rw [step] at same
    exact absurd same.symm proper
  · rw [step] at same read
    change c = c' at same
    subst same
    exact ⟨rest, rfl, read⟩

/-- What is read of the first few bytes can be read of all of them. -/
theorem prefix_of_take {count : Nat} {bytes : List UInt8} (proper : replacement ∉ text)
    (read : text <+: decodeLossy (bytes.take count)) : text <+: decodeLossy bytes := by
  induction text generalizing count bytes with
  | nil => exact List.nil_prefix
  | cons c text ih =>
    rw [List.mem_cons, not_or] at proper
    cases count with
    | zero => simp [decodeLossy_nil] at read
    | succ count =>
      cases bytes with
      | nil => simp [decodeLossy_nil] at read
      | cons b bytes =>
        rw [List.take_succ_cons] at read
        obtain ⟨rest, step, read⟩ := first_of_prefix proper.1 read
        -- the character has all its bytes before the cut
        obtain ⟨middle, cut, -, again⟩ := nextChar_some step
        obtain ⟨more, rfl, rfl⟩ := take_middle cut
        rw [decodeLossy_cons, again more]
        exact List.cons_prefix_cons.2 ⟨rfl, ih proper.2 read⟩

theorem weight_pos (c : Char) : 0 < weight c := by
  rw [weight]
  split <;> omega

/-- What can be read of all bytes, and is short enough, can be read of the first few. -/
theorem prefix_take {count : Nat} {bytes : List UInt8} (proper : replacement ∉ text)
    (read : text <+: decodeLossy bytes) (short : weightOf text ≤ count) :
    text <+: decodeLossy (bytes.take count) := by
  induction text generalizing count bytes with
  | nil => exact List.nil_prefix
  | cons c text ih =>
    rw [List.mem_cons, not_or] at proper
    have positive := weight_pos c
    rw [weightOf] at short
    cases bytes with
    | nil => simp [decodeLossy_nil] at read
    | cons b bytes =>
      obtain ⟨rest, step, further⟩ := first_of_prefix proper.1 read
      obtain ⟨middle, rfl, small, again⟩ := nextChar_some step
      obtain ⟨count, rfl⟩ : ∃ n, count = n + 1 := ⟨count - 1, by omega⟩
      rw [List.take_succ_cons, List.take_append, List.take_of_length_le (by omega),
        decodeLossy_cons, again]
      exact List.cons_prefix_cons.2 ⟨rfl, ih proper.2 further (by omega)⟩

end Prefixes

/-! ### An ASCII byte behind -/

theorem takeContinuations_append (count bits : Nat) (bytes : List UInt8) {last : UInt8}
    (ascii : last < 0x80) :
    takeContinuations count bits (bytes ++ [last]) =
      ((takeContinuations count bits bytes).1, (takeContinuations count bits bytes).2.1,
        (takeContinuations count bits bytes).2.2 ++ [last]) := by
  have notContinuation : isContinuation last = false := by
    simp only [isContinuation, Bool.and_eq_false_iff, decide_eq_false_iff_not, UInt8.not_le]
    exact .inl ascii
  induction bytes generalizing count bits with
  | nil => cases count <;> simp [takeContinuations, notContinuation]
  | cons b bytes ih =>
    cases count with
    | zero => simp [takeContinuations]
    | succ count =>
      simp only [List.cons_append, takeContinuations]
      split
      · exact ih _ _
      · rfl

theorem leadByte?_least {b least most : UInt8} {following : Nat}
    (lead : leadByte? b = some (following, least, most)) : 0x80 ≤ least := by
  unfold leadByte? at lead
  repeat' split at lead
  all_goals cases lead
  all_goals decide

theorem nextChar_append (b : UInt8) (bytes : List UInt8) {last : UInt8} (ascii : last < 0x80) :
    nextChar b (bytes ++ [last]) =
      ((nextChar b bytes).1, (nextChar b bytes).2 ++ [last]) := by
  unfold nextChar
  split
  · rfl
  · cases lead : leadByte? b with
    | none => rfl
    | some found =>
      obtain ⟨following, least, most⟩ := found
      have least_ge := leadByte?_least lead
      cases bytes with
      | nil =>
        have tooSmall : ¬ least ≤ last := by
          rw [UInt8.not_le]
          exact UInt8.lt_of_lt_of_le ascii least_ge
        simp [tooSmall]
      | cons second rest =>
        simp only [List.cons_append, takeContinuations_append _ _ _ ascii]
        split
        · rcases takeContinuations (following - 1) _ rest with ⟨_ | left, bits, rest⟩ <;> rfl
        · rfl

theorem decodeLossy_append (bytes : List UInt8) {last : UInt8} (ascii : last < 0x80) :
    decodeLossy (bytes ++ [last]) = decodeLossy bytes ++ [Char.ofNat last.toNat] := by
  cases bytes with
  | nil => simp [decodeLossy_cons, decodeLossy_nil, nextChar, ascii]
  | cons b bytes =>
    rw [List.cons_append, decodeLossy_cons, nextChar_append b bytes ascii,
      decodeLossy_append _ ascii, decodeLossy_cons, List.cons_append]
termination_by bytes.length
decreasing_by exact Nat.lt_succ_of_le (nextChar_length b bytes)

end LogQuery.Text

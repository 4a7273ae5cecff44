import LogQuery.Unicode.CharSet

/-! What a set of characters holds comes from its ranges. -/

set_option autoImplicit false

namespace LogQuery.Unicode.CharSet

def InRanges (ranges : List (Nat × Nat)) (code : Nat) : Prop :=
  ∃ range ∈ ranges, range.1 ≤ code ∧ code ≤ range.2

instance (ranges : List (Nat × Nat)) (code : Nat) : Decidable (InRanges ranges code) :=
  inferInstanceAs (Decidable (∃ range ∈ ranges, range.1 ≤ code ∧ code ≤ range.2))

variable {ranges others : List (Nat × Nat)} {merged : Array (Nat × Nat)} {code : Nat}

theorem inRanges_cons {range : Nat × Nat} :
    InRanges (range :: ranges) code ↔ range.1 ≤ code ∧ code ≤ range.2 ∨ InRanges ranges code := by
  simp only [InRanges, List.mem_cons, exists_eq_or_imp]

theorem inRanges_push {range : Nat × Nat} :
    InRanges (merged.push range).toList code ↔
      range.1 ≤ code ∧ code ≤ range.2 ∨ InRanges merged.toList code := by
  simp only [InRanges, Array.mem_toList_iff, Array.mem_push, or_comm, exists_eq_or_imp]

theorem not_inRanges_of_apart
    (apart : ∀ range ∈ ranges, ∀ other ∈ others, range.2 < other.1 ∨ other.2 < range.1)
    (inside : InRanges ranges code) : ¬ InRanges others code := by
  obtain ⟨range, listed, first, last⟩ := inside
  rintro ⟨other, listed', first', last'⟩
  have := apart range listed other listed'
  omega

theorem inRanges_of_within
    (within : ∀ range ∈ ranges, ∃ other ∈ others, other.1 ≤ range.1 ∧ range.2 ≤ other.2)
    (inside : InRanges ranges code) : InRanges others code := by
  obtain ⟨range, listed, first, last⟩ := inside
  obtain ⟨other, listed', first', last'⟩ := within range listed
  exact ⟨other, listed', Nat.le_trans first' first, Nat.le_trans last last'⟩

theorem inRanges_of_search {low high : Nat} (found : search merged code low high = true) :
    InRanges merged.toList code := by
  fun_induction search merged code low high with
  | case1 low high more middle first last at_middle before ih => exact ih found
  | case2 low high more middle first last at_middle reached after ih => exact ih found
  | case3 low high more middle first last at_middle reached inside =>
    exact ⟨(first, last), Array.mem_toList_iff.2 (Array.mem_of_getElem? at_middle),
      Nat.not_lt.1 reached, Nat.not_lt.1 inside⟩
  | case4 => cases found
  | case5 => cases found

/-- Two ranges become one only where they meet, so no code comes in from outside of them. -/
theorem inRanges_of_mergeOnto_single {first last : Nat}
    (inside : InRanges (mergeOnto merged [(first, last)]).toList code) :
    first ≤ code ∧ code ≤ last ∨ InRanges merged.toList code := by
  simp only [mergeOnto, List.foldl_cons, List.foldl_nil] at inside
  split at inside
  · exact .inr inside
  · split at inside
    · rename_i start stop at_end
      split at inside
      · obtain ⟨earlier, rfl⟩ := Array.back?_eq_some_iff.1 at_end
        rw [Array.pop_push, inRanges_push] at inside
        rw [inRanges_push]
        obtain bounds | before := inside
        · have : first ≤ code ∧ code ≤ last ∨ start ≤ code ∧ code ≤ stop := by omega
          exact this.imp_right .inl
        · exact .inr (.inr before)
      · exact inRanges_push.1 inside
    · exact inRanges_push.1 inside

theorem inRanges_of_mergeOnto (inside : InRanges (mergeOnto merged ranges).toList code) :
    InRanges merged.toList code ∨ InRanges ranges code := by
  induction ranges generalizing merged with
  | nil => exact .inl inside
  | cons range ranges ih =>
    have stepped : InRanges (mergeOnto (mergeOnto merged [range]) ranges).toList code := inside
    rw [inRanges_cons]
    obtain first | later := ih stepped
    · obtain here | before := inRanges_of_mergeOnto_single first
      · exact .inr (.inl here)
      · exact .inl before
    · exact .inr (.inr later)

theorem inRanges_of_contains {c : Char} (inside : (ofRanges ranges).contains c = true) :
    InRanges ranges c.toNat := by
  obtain unmerged | ⟨range, listed, bounds⟩ := inRanges_of_mergeOnto (inRanges_of_search inside)
  · obtain ⟨range, listed, -⟩ := unmerged
    cases listed
  · exact ⟨range, List.mem_mergeSort.1 listed, bounds⟩

theorem contains_eq_false {c : Char} (outside : ¬ InRanges ranges c.toNat) :
    (ofRanges ranges).contains c = false := by
  rw [← Bool.not_eq_true]
  exact outside ∘ inRanges_of_contains

end LogQuery.Unicode.CharSet

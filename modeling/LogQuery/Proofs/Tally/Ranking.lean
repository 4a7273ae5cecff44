import LogQuery.Proofs.Tally.Counting

/-! The entries of a table from the highest count down. -/

set_option autoImplicit false

namespace LogQuery.Tally

theorem foldl_highest (entries : List Entry) (start : Nat) :
    let highest := entries.foldl (fun most entry => max most entry.count) start
    start ≤ highest ∧ (∀ entry ∈ entries, entry.count ≤ highest) ∧
      (highest = start ∨ ∃ entry ∈ entries, entry.count = highest) := by
  induction entries generalizing start with
  | nil => exact ⟨Nat.le_refl _, by rintro _ ⟨⟩, .inl rfl⟩
  | cons entry entries ih =>
    obtain ⟨above, bounds, reached⟩ := ih (max start entry.count)
    rw [List.foldl_cons]
    intro highest
    refine ⟨Nat.le_trans (Nat.le_max_left _ _) above, ?_, ?_⟩
    · rw [List.forall_mem_cons]
      exact ⟨Nat.le_trans (Nat.le_max_right _ _) above, bounds⟩
    · obtain same | ⟨other, member, same⟩ := reached
      · have either : max start entry.count = start ∨ max start entry.count = entry.count := by omega
        exact either.imp same.trans fun right => ⟨entry, List.mem_cons_self, (same.trans right).symm⟩
      · exact .inr ⟨other, List.mem_cons_of_mem _ member, same⟩

variable (tally : Tally)

theorem le_highest : ∀ entry ∈ tally.entries.toList, entry.count ≤ tally.highest :=
  (foldl_highest _ 0).2.1

theorem highest_reached :
    (tally.entries.toList = [] ∧ tally.highest = 0) ∨
      ∃ entry ∈ tally.entries.toList, entry.count = tally.highest := by
  obtain none_above | reached := (foldl_highest tally.entries.toList 0).2.2
  · cases entries : tally.entries.toList with
    | nil => exact .inl ⟨rfl, none_above⟩
    | cons entry rest =>
      have least := tally.le_highest entry (entries ▸ List.mem_cons_self)
      rw [highest, none_above] at least
      refine .inr ⟨entry, List.mem_cons_self, ?_⟩
      rw [highest, none_above]
      exact Nat.le_zero.1 least
  · exact .inr reached

theorem ranked_perm : tally.ranked.Perm tally.entries.toList := List.mergeSort_perm _ _

theorem count_trans (a b c : Entry) (first : decide (b.count ≤ a.count) = true)
    (next : decide (c.count ≤ b.count) = true) : decide (c.count ≤ a.count) = true :=
  decide_eq_true (Nat.le_trans (of_decide_eq_true next) (of_decide_eq_true first))

theorem count_total (a b : Entry) :
    (decide (b.count ≤ a.count) || decide (a.count ≤ b.count)) = true := by
  rw [Bool.or_eq_true, decide_eq_true_iff, decide_eq_true_iff]
  exact Nat.le_total _ _

theorem ranked_descending : tally.ranked.Pairwise fun a b => b.count ≤ a.count :=
  (List.pairwise_mergeSort count_trans count_total _).imp of_decide_eq_true

theorem filter_ranked (count : Nat) :
    tally.ranked.filter (·.count == count) = tally.entries.toList.filter (·.count == count) := by
  have level : (tally.entries.toList.filter (·.count == count)).Pairwise
      fun a b => decide (b.count ≤ a.count) = true := by
    refine List.pairwise_of_forall_mem_list fun a memberA b memberB => ?_
    have first := (List.mem_filter.1 memberA).2
    have second := (List.mem_filter.1 memberB).2
    rw [beq_iff_eq] at first second
    exact decide_eq_true (Nat.le_of_eq (second.trans first.symm))
  have kept := (List.sublist_mergeSort count_trans count_total level List.filter_sublist).filter
    (·.count == count)
  -- a part of the ranked entries that is as long as all of those with this count
  rw [List.filter_filter] at kept
  simp only [Bool.and_self] at kept
  exact (kept.eq_of_length ((tally.ranked_perm.filter _).length_eq).symm).symm

theorem ranked_order {before : Entry → Entry → Prop} (order : tally.entries.toList.Pairwise before) :
    tally.ranked.Pairwise fun a b => b.count < a.count ∨ (a.count = b.count ∧ before a b) := by
  rw [List.pairwise_iff_forall_sublist]
  intro a b pair
  -- equal counts are settled among the entries with that count, which were not moved
  have descending := List.pairwise_iff_forall_sublist.1 tally.ranked_descending pair
  obtain less | same := Nat.lt_or_eq_of_le descending
  · exact .inl less
  · refine .inr ⟨same.symm, ?_⟩
    have level := pair.filter (·.count == a.count)
    have both : [a, b].filter (·.count == a.count) = [a, b] := by
      rw [List.filter_eq_self, List.forall_mem_cons, List.forall_mem_singleton]
      exact ⟨beq_self_eq_true _, beq_iff_eq.2 same⟩
    rw [filter_ranked, both] at level
    exact List.pairwise_iff_forall_sublist.1 order (level.trans List.filter_sublist)

/-- A table accounts for all records that were put into it, tells the highest count, and lists its
entries from that one down, those with the same count in the order in which they were first seen. -/
theorem addAll_frequencies (records : List Record) :
    let tally := ({} : Tally).addAll records
    tally.Accounts records ∧
    ((∀ entry ∈ tally.entries.toList, entry.count ≤ tally.highest) ∧
      ((tally.entries.toList = [] ∧ tally.highest = 0) ∨
        ∃ entry ∈ tally.entries.toList, entry.count = tally.highest)) ∧
    tally.ranked.Perm tally.entries.toList ∧
    tally.ranked.Pairwise fun a b =>
      b.count < a.count ∨ (a.count = b.count ∧ rank records a.key < rank records b.key) := by
  intro tally
  have accounts : tally.Accounts records := accounts_empty.addAll records
  exact ⟨accounts, ⟨tally.le_highest, tally.highest_reached⟩, tally.ranked_perm,
    tally.ranked_order accounts.entries_order⟩

end LogQuery.Tally

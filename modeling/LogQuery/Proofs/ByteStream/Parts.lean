import LogQuery.Proofs.ByteStream.Lines
import Mathlib.Data.List.Pairwise

/-! Lines of bytes that come in parts.

A line runs on from one part into the next that is not empty, unless it has its newline. Without
such lines, the parts have together the lines that they have one by one. -/

set_option autoImplicit false

namespace LogQuery.ByteStream

theorem segments_unended_append {line back first : List UInt8} {rest : List (List UInt8)}
    (unended : newline ∉ line) (cut : segments back = first :: rest) :
    segments (line ++ back) = (line ++ first) :: rest := by
  induction line with
  | nil => exact cut
  | cons byte line ih =>
    rw [List.cons_append, segments, if_neg (List.ne_of_not_mem_cons unended).symm,
      ih (List.not_mem_of_not_mem_cons unended)]
    rfl

theorem segments_append_apart {front back : List UInt8} (whole : back ≠ [] → IsWhole front) :
    segments (front ++ back) = segments front ++ segments back := by
  by_cases last : back = []
  · rw [last, List.append_nil, segments, List.append_nil]
  · exact segments_append (whole last) back

theorem segments_append_broken {front back : List UInt8} (broken : ¬ IsWhole front)
    (more : back ≠ []) :
    ∃ finished last first rest, segments front = finished ++ [last] ∧
      segments back = first :: rest ∧
      segments (front ++ back) = finished ++ (last ++ first) :: rest := by
  obtain ⟨first, rest, cut⟩ := List.exists_cons_of_ne_nil (mt segments_eq_nil.1 more)
  induction front using line_induction with
  | nil => exact absurd (.inl rfl) broken
  | unended line nonempty unbroken =>
    exact ⟨[], line, first, rest, segments_unended unbroken nonempty, cut,
      segments_unended_append unbroken cut⟩
  | line line front unbroken ih =>
    have brokenBehind : ¬ IsWhole front := by
      intro whole
      refine broken (.inr ?_)
      rcases whole with rfl | last
      · exact List.getLast?_concat
      · rw [List.getLast?_append, List.getLast?_cons, last]
        rfl
    obtain ⟨finished, last, first, rest, front_eq, back_eq, both⟩ := ih brokenBehind
    refine ⟨(line ++ [newline]) :: finished, last, first, rest, ?_, back_eq, ?_⟩
    · rw [segments_line_append unbroken, front_eq, List.cons_append]
    · rw [List.append_assoc, List.cons_append, segments_line_append unbroken, both,
        List.cons_append]

/-- Does no part end in the middle of a line while something stands behind it? -/
def AreApart (parts : List (List UInt8)) : Prop :=
  parts.Pairwise fun part later => later ≠ [] → IsWhole part

theorem areApart_cons {part : List UInt8} {parts : List (List UInt8)} :
    AreApart (part :: parts) ↔ (parts.flatten ≠ [] → IsWhole part) ∧ AreApart parts := by
  rw [AreApart, List.pairwise_cons]
  refine and_congr_left fun _ => ⟨fun all more => ?_, fun whole later member more => whole ?_⟩
  · rw [ne_eq, List.flatten_eq_nil_iff, not_forall] at more
    obtain ⟨later, more⟩ := more
    obtain ⟨member, nonempty⟩ := Classical.not_imp.1 more
    exact all later member nonempty
  · exact fun nothing => more (List.flatten_eq_nil_iff.1 nothing later member)

theorem areApart_of_whole {parts : List (List UInt8)} (whole : ∀ part ∈ parts, IsWhole part) :
    AreApart parts :=
  List.pairwise_of_forall_mem_list fun part member _ _ _ => whole part member

theorem segments_flatten {parts : List (List UInt8)} (apart : AreApart parts) :
    segments parts.flatten = parts.flatMap segments := by
  induction parts with
  | nil => rfl
  | cons part parts ih =>
    obtain ⟨whole, apart⟩ := areApart_cons.1 apart
    rw [List.flatten_cons, List.flatMap_cons, segments_append_apart whole, ih apart]

/-- Parts never have more lines together than one by one, and fewer if a line runs on from one into
another. -/
theorem length_segments_flatten (parts : List (List UInt8)) :
    (segments parts.flatten).length ≤ (parts.flatMap segments).length ∧
      ((segments parts.flatten).length = (parts.flatMap segments).length → AreApart parts) := by
  induction parts with
  | nil => exact ⟨Nat.le_refl 0, fun _ => List.Pairwise.nil⟩
  | cons part parts ih =>
    obtain ⟨most, apart⟩ := ih
    rw [List.flatten_cons, List.flatMap_cons, List.length_append, areApart_cons]
    by_cases whole : parts.flatten ≠ [] → IsWhole part
    · rw [segments_append_apart whole, List.length_append]
      exact ⟨by omega, fun same => ⟨whole, apart (by omega)⟩⟩
    · -- two segments become one, so the parts cannot have as many together
      obtain ⟨more, broken⟩ := Classical.not_imp.1 whole
      obtain ⟨finished, last, first, rest, part_eq, behind_eq, both⟩ :=
        segments_append_broken broken more
      simp only [behind_eq, List.length_cons] at most
      rw [both, part_eq]
      simp only [List.length_append, List.length_cons, List.length_nil]
      exact ⟨by omega, fun same => by omega⟩

theorem linesOf_flatten_iff (parts : List (List UInt8)) :
    linesOf parts.flatten = parts.flatMap linesOf ↔ AreApart parts := by
  have each : parts.flatMap linesOf = (parts.flatMap segments).map content := by
    rw [List.map_flatMap]
    exact congrArg (List.flatMap · parts) (funext linesOf_eq)
  rw [each, linesOf_eq]
  refine ⟨fun same => (length_segments_flatten parts).2 ?_, fun apart => ?_⟩
  · simpa only [List.length_map] using congrArg List.length same
  · rw [segments_flatten apart]

end LogQuery.ByteStream

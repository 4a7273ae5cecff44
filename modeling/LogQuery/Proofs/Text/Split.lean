import LogQuery.Text.Basic

/-! Parts of texts with a separator behind each, and what can be told from such a text. -/

set_option autoImplicit false

namespace LogQuery.Text

def terminated (separator : Char) (parts : List (List Char)) : List Char :=
  parts.flatMap (· ++ [separator])

section

variable {separator : Char}

theorem terminated_cons (part : List Char) (parts : List (List Char)) :
    terminated separator (part :: parts) = part ++ separator :: terminated separator parts := by
  rw [terminated, List.flatMap_cons, List.append_assoc]
  rfl

/-! ## Cutting -/

theorem splitAt_cons (c : Char) (text : List Char) :
    splitAt separator (c :: text) =
      if c == separator then [] :: splitAt separator text
      else match splitAt separator text with
        | part :: parts => (c :: part) :: parts
        | [] => [[c]] := rfl

theorem splitAt_ne_nil (text : List Char) : splitAt separator text ≠ [] := by
  cases text with
  | nil => exact List.cons_ne_nil _ _
  | cons c text =>
    rw [splitAt_cons]
    repeat' split
    all_goals exact List.cons_ne_nil _ _

theorem splitAt_separator (text : List Char) :
    splitAt separator (separator :: text) = [] :: splitAt separator text :=
  if_pos (beq_self_eq_true separator)

theorem splitAt_other {c : Char} (other : c ≠ separator) {text part : List Char}
    {parts : List (List Char)} (behind : splitAt separator text = part :: parts) :
    splitAt separator (c :: text) = (c :: part) :: parts := by
  rw [splitAt_cons, if_neg (mt beq_iff_eq.1 other), behind]

theorem terminated_splitAt (text : List Char) :
    terminated separator (splitAt separator text) = text ++ [separator] := by
  induction text with
  | nil => rfl
  | cons c text ih =>
    by_cases ends : c = separator
    · subst ends
      rw [splitAt_separator, terminated_cons, ih]
      rfl
    · obtain ⟨part, parts, behind⟩ := List.exists_cons_of_ne_nil (splitAt_ne_nil text)
      rw [behind, terminated_cons] at ih
      rw [splitAt_other ends behind, terminated_cons, List.cons_append, ih]
      rfl

theorem not_mem_of_mem_splitAt {text part : List Char} (member : part ∈ splitAt separator text) :
    separator ∉ part := by
  induction text generalizing part with
  | nil =>
    cases List.mem_singleton.1 member
    exact List.not_mem_nil
  | cons c text ih =>
    by_cases ends : c = separator
    · subst ends
      rw [splitAt_separator, List.mem_cons] at member
      obtain rfl | member := member
      · exact List.not_mem_nil
      · exact ih member
    · obtain ⟨first, parts, behind⟩ := List.exists_cons_of_ne_nil (splitAt_ne_nil text)
      rw [behind] at ih
      rw [splitAt_other ends behind, List.mem_cons] at member
      obtain rfl | member := member
      · rw [List.mem_cons, not_or]
        exact ⟨Ne.symm ends, ih List.mem_cons_self⟩
      · exact ih (List.mem_cons_of_mem _ member)

/-! ## Cutting what was put together -/

theorem splitAt_append_separator {part : List Char} (free : separator ∉ part) (rest : List Char) :
    splitAt separator (part ++ separator :: rest) = part :: splitAt separator rest := by
  induction part with
  | nil => exact splitAt_separator rest
  | cons c part ih =>
    rw [List.mem_cons, not_or] at free
    exact splitAt_other (Ne.symm free.1) (ih free.2)

theorem splitAt_terminated {parts : List (List Char)} (free : ∀ part ∈ parts, separator ∉ part) :
    splitAt separator (terminated separator parts) = parts ++ [[]] := by
  induction parts with
  | nil => rfl
  | cons part parts ih =>
    rw [List.forall_mem_cons] at free
    rw [terminated_cons, splitAt_append_separator free.1, ih free.2]
    rfl

/-- Parts that do not hold the separator themselves are told from the text. -/
theorem terminated_inj {parts others : List (List Char)}
    (free : ∀ part ∈ parts, separator ∉ part) (freeOthers : ∀ part ∈ others, separator ∉ part)
    (same : terminated separator parts = terminated separator others) : parts = others := by
  have again := congrArg (splitAt separator) same
  rw [splitAt_terminated free, splitAt_terminated freeOthers] at again
  exact List.append_cancel_right again

theorem splitAt_of_not_mem {text : List Char} (free : separator ∉ text) :
    splitAt separator text = [text] := by
  apply terminated_inj fun part => not_mem_of_mem_splitAt
  · rw [List.forall_mem_singleton]
    exact free
  · rw [terminated_splitAt, terminated_cons]
    rfl

theorem mem_of_mem_intercalate {gap : List Char} {words : List (List Char)} {c : Char}
    (member : c ∈ gap.intercalate words) : c ∈ gap ∨ c ∈ words.flatten := by
  induction words with
  | nil => cases member
  | cons word words ih =>
    cases words with
    | nil =>
      rw [List.intercalate_singleton] at member
      exact .inr (by simpa using member)
    | cons next words =>
      rw [List.intercalate_cons_cons, List.mem_append, List.mem_append] at member
      rw [List.flatten_cons, List.mem_append]
      rcases member with (member | member) | member
      · exact .inr (.inl member)
      · exact .inl member
      · exact (ih member).imp_right .inr

theorem toList_intercalate {joint : String} (single : joint.toList = [separator])
    {names : List String} (nonempty : names ≠ []) :
    (joint.intercalate names).toList ++ [separator] =
      terminated separator (names.map (·.toList)) := by
  rw [String.toList_intercalate, single]
  induction names with
  | nil => exact absurd rfl nonempty
  | cons name names ih =>
    rw [List.map_cons, terminated_cons]
    cases names with
    | nil => simp [terminated]
    | cons next names =>
      rw [← ih (List.cons_ne_nil _ _), List.map_cons, List.intercalate_cons_cons]
      simp

/-- Names that do not hold the separator are told from the text that they make with one of it
between any two. -/
theorem splitAt_intercalate {joint : String} (single : joint.toList = [separator])
    {names : List String} (nonempty : names ≠ [])
    (free : ∀ name ∈ names, separator ∉ name.toList) :
    splitAt separator (joint.intercalate names).toList = names.map (·.toList) := by
  apply terminated_inj fun part => not_mem_of_mem_splitAt
  · rw [List.forall_mem_map]
    exact free
  · rw [terminated_splitAt, toList_intercalate single nonempty]

theorem exists_intercalate {joint : String} (single : joint.toList = [separator]) (text : String) :
    ∃ names : List String, names ≠ [] ∧ (∀ name ∈ names, separator ∉ name.toList) ∧
      text = joint.intercalate names := by
  have free : ∀ name ∈ (splitAt separator text.toList).map String.ofList,
      separator ∉ name.toList := by
    rw [List.forall_mem_map]
    intro part member
    rw [String.toList_ofList]
    exact not_mem_of_mem_splitAt member
  have nonempty : (splitAt separator text.toList).map String.ofList ≠ [] :=
    mt List.map_eq_nil_iff.1 (splitAt_ne_nil _)
  refine ⟨_, nonempty, free, String.toList_injective ?_⟩
  have whole := toList_intercalate single nonempty
  have parts : ((splitAt separator text.toList).map String.ofList).map (·.toList) =
      splitAt separator text.toList := by simp
  rw [parts, terminated_splitAt] at whole
  exact (List.append_cancel_right whole).symm

/-! ## Cutting once -/

theorem splitAtFirst?_append {front : List Char} (free : separator ∉ front) (rest : List Char) :
    splitAtFirst? separator (front ++ separator :: rest) = some (front, rest) := by
  have before : ∀ c ∈ front, (c != separator) = true := fun c member =>
    bne_iff_ne.2 fun same => free (same ▸ member)
  have stops : (separator != separator) = false := bne_self_eq_false separator
  rw [splitAtFirst?, List.dropWhile_append_of_pos before, List.takeWhile_append_of_pos before,
    List.dropWhile_cons, List.takeWhile_cons, stops]
  simp

theorem splitAtFirst?_eq_some_iff {text front rest : List Char} :
    splitAtFirst? separator text = some (front, rest) ↔
      text = front ++ separator :: rest ∧ separator ∉ front := by
  constructor
  · intro cut
    rw [splitAtFirst?] at cut
    split at cut
    · cases cut
    · next first behind left =>
      cases cut
      have isFirst : first = separator := by
        have stops := List.head?_dropWhile_not (· != separator) text
        rw [left] at stops
        simpa using stops
      subst isFirst
      refine ⟨?_, fun member => ?_⟩
      · rw [← left, List.takeWhile_append_dropWhile]
      · have passed := List.all_takeWhile (l := text) (p := (· != first))
        simpa using List.all_eq_true.1 passed first member
  · rintro ⟨rfl, free⟩
    exact splitAtFirst?_append free rest

end

end LogQuery.Text

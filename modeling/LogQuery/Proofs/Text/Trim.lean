import LogQuery.Proofs.Text.Run

/-! Texts with the blanks around them taken away. -/

set_option autoImplicit false

namespace LogQuery.Text

open Unicode (isBlank trim trimStart trimEnd)

variable {before after text : List Char}

/-! ### From one end -/

theorem trimStart_append (blank : ∀ c ∈ before, isBlank c = true) (text : List Char) :
    trimStart (before ++ text) = trimStart text := List.dropWhile_append_of_pos blank

theorem trimEnd_append (text : List Char) (blank : ∀ c ∈ after, isBlank c = true) :
    trimEnd (text ++ after) = trimEnd text := by
  rw [trimEnd, List.reverse_append,
    List.dropWhile_append_of_pos fun c member => blank c (List.mem_reverse.1 member), trimEnd]

theorem exists_trimEnd (text : List Char) :
    ∃ after, (∀ c ∈ after, isBlank c = true) ∧ text = trimEnd text ++ after := by
  obtain ⟨after, blank, cut⟩ := exists_run isBlank text.reverse
  refine ⟨after.reverse, fun c member => blank c (List.mem_reverse.1 member), ?_⟩
  rw [trimEnd, ← List.reverse_append, ← cut, List.reverse_reverse]

/-- What stands in front of a visible character is not reached from the other end. -/
theorem trimStart_visible {c : Char} (visible : isBlank c = false) (front back : List Char) :
    trimStart (front ++ c :: back) = trimStart front ++ c :: back := by
  induction front with
  | nil => exact trimStart_of_stops (stops_cons visible back)
  | cons d front ih =>
    rw [trimStart] at ih
    rw [trimStart, trimStart, List.cons_append, List.dropWhile_cons, List.dropWhile_cons, ih]
    split <;> rfl

theorem trimEnd_visible {c : Char} (visible : isBlank c = false) (front back : List Char) :
    trimEnd (front ++ c :: back) = front ++ c :: trimEnd back := by
  have reversed := trimStart_visible visible back.reverse front.reverse
  rw [trimStart, trimStart] at reversed
  rw [trimEnd, trimEnd, List.reverse_append, List.reverse_cons, List.append_assoc,
    List.singleton_append, reversed]
  simp

theorem trimStart_eq_nil_iff : trimStart text = [] ↔ ∀ c ∈ text, isBlank c = true :=
  List.dropWhile_eq_nil_iff

theorem trimEnd_eq_nil_iff : trimEnd text = [] ↔ ∀ c ∈ text, isBlank c = true := by
  rw [trimEnd, List.reverse_eq_nil_iff, List.dropWhile_eq_nil_iff]
  simp only [List.mem_reverse]

/-! ### From both ends -/

theorem exists_trim (text : List Char) :
    ∃ before after, (∀ c ∈ before, isBlank c = true) ∧ (∀ c ∈ after, isBlank c = true) ∧
      text = before ++ (trim text ++ after) := by
  obtain ⟨before, blank, cut⟩ := exists_run isBlank text
  obtain ⟨after, blankAfter, cutBack⟩ := exists_trimEnd (trimStart text)
  exact ⟨before, after, blank, blankAfter, cut.trans (congrArg (before ++ ·) cutBack)⟩

theorem trim_visible {c : Char} (visible : isBlank c = false) (front back : List Char) :
    trim (front ++ c :: back) = trimStart front ++ c :: trimEnd back := by
  rw [trim, trimStart_visible visible, trimEnd_visible visible]

theorem trim_blank (blank : ∀ c ∈ text, isBlank c = true) : trim text = [] := by
  have nothing := trimStart_append blank []
  rw [List.append_nil] at nothing
  rw [trim, nothing]
  rfl

theorem trim_surrounded (blank : ∀ c ∈ before, isBlank c = true) (text : List Char)
    (blankAfter : ∀ c ∈ after, isBlank c = true) :
    trim (before ++ (text ++ after)) = trim text := by
  rw [trim, trimStart_append blank, trim]
  by_cases visible : ∃ c ∈ text, isBlank c = false
  · obtain ⟨c, member, visible⟩ := visible
    obtain ⟨front, back, rfl⟩ := List.append_of_mem member
    rw [List.append_assoc, List.cons_append, trimStart_visible visible, trimStart_visible visible,
      trimEnd_visible visible, trimEnd_visible visible, trimEnd_append _ blankAfter]
  · -- then there is nothing but blanks, and nothing is left either way
    have all : ∀ c ∈ text, isBlank c = true := by simpa using visible
    exact (trim_blank (List.forall_mem_append.2 ⟨all, blankAfter⟩)).trans (trim_blank all).symm

theorem trim_trimStart (text : List Char) : trim (trimStart text) = trim text := by
  obtain ⟨before, blank, cut⟩ := exists_run isBlank text
  have same := trim_surrounded blank (trimStart text) (List.forall_mem_nil _)
  rwa [List.append_nil, trimStart, ← cut, eq_comm] at same

theorem trim_trimEnd (text : List Char) : trim (trimEnd text) = trim text := by
  obtain ⟨after, blank, cut⟩ := exists_trimEnd text
  have same := trim_surrounded (List.forall_mem_nil _) (trimEnd text) blank
  rwa [List.nil_append, ← cut, eq_comm] at same

theorem trim_trim (text : List Char) : trim (trim text) = trim text := by
  have first := trim_trimEnd (trimStart text)
  rwa [trim_trimStart] at first

theorem trim_of_stops (stops : Stops isBlank text) (stopsBack : Stops isBlank text.reverse) :
    trim text = text := by
  rw [trim, trimStart_of_stops stops, trimEnd, dropWhile_of_stops stopsBack, List.reverse_reverse]

end LogQuery.Text

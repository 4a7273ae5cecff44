import LogQuery.Proofs.ByteStream.Segments
import LogQuery.Proofs.Time.Recognizer

/-! Lines of text are the segments of the bytes, each less its line end. -/

set_option autoImplicit false

namespace LogQuery.ByteStream

def content (line : List UInt8) : List UInt8 :=
  if line.getLast? = some newline then
    if line.dropLast.getLast? = some 13 then line.dropLast.dropLast else line.dropLast
  else line

theorem content_unended {line : List UInt8} (unended : newline ∉ line) : content line = line := by
  rw [content, if_neg fun last => unended (List.mem_of_getLast? last)]

theorem linesOnto_unended (done : Array (List UInt8)) (current : List UInt8) {line : List UInt8}
    (unended : newline ∉ line) :
    linesOnto done current line = (done, current.reverse ++ line) := by
  induction line generalizing current with
  | nil => simp [linesOnto]
  | cons byte line ih =>
    rw [List.mem_cons, not_or] at unended
    rw [linesOnto, ih _ unended.2]
    · simp
    · rintro rfl
      exact unended.1 rfl

theorem linesOnto_line (done : Array (List UInt8)) (current : List UInt8) {line : List UInt8}
    (unended : newline ∉ line) (rest : List UInt8) :
    linesOnto done current (line ++ newline :: rest) =
      linesOnto (done.push (content (current.reverse ++ line ++ [newline]))) [] rest := by
  induction line generalizing current with
  | nil =>
    -- a carriage return before the newline stands first in what was read of the line
    cases current with
    | nil => rfl
    | cons byte current =>
      by_cases isReturn : byte = 13
      · subst isReturn
        simp [linesOnto, content, newline]
      · simp [linesOnto, content, newline, isReturn]
  | cons byte line ih =>
    rw [List.mem_cons, not_or] at unended
    rw [List.cons_append, linesOnto, ih _ unended.2]
    · simp
    · rintro rfl
      exact unended.1 rfl

/-! ### All lines -/

theorem linesOnto_done (done : Array (List UInt8)) (bytes : List UInt8) :
    linesOnto done [] bytes =
      (done ++ (splitLines bytes).1.toArray, (splitLines bytes).2) := by
  induction bytes using line_induction generalizing done with
  | nil => simp [splitLines, linesOnto]
  | unended line nonempty unbroken => simp [splitLines, linesOnto_unended _ _ unbroken]
  | line line rest unbroken ih =>
    rw [splitLines, linesOnto_line _ _ unbroken, linesOnto_line _ _ unbroken, ih, ih]
    simp

theorem splitLines_unended {line : List UInt8} (unended : newline ∉ line) :
    splitLines line = ([], line) := by
  rw [splitLines, linesOnto_unended _ _ unended]
  rfl

theorem splitLines_line {line : List UInt8} (unended : newline ∉ line) (rest : List UInt8) :
    splitLines (line ++ newline :: rest) =
      (content (line ++ [newline]) :: (splitLines rest).1, (splitLines rest).2) := by
  rw [splitLines, linesOnto_line _ _ unended, linesOnto_done]
  simp

theorem linesOf_line {line : List UInt8} (unended : newline ∉ line) (rest : List UInt8) :
    linesOf (line ++ newline :: rest) = content (line ++ [newline]) :: linesOf rest := by
  rw [linesOf, splitLines_line unended, linesOf]
  rcases splitLines rest with ⟨lines, _ | ⟨byte, left⟩⟩ <;> rfl

theorem linesOf_eq (bytes : List UInt8) : linesOf bytes = (segments bytes).map content := by
  induction bytes using line_induction with
  | nil => rfl
  | unended line nonempty unbroken =>
    rw [segments_unended unbroken nonempty, linesOf, splitLines_unended unbroken]
    cases line with
    | nil => exact absurd rfl nonempty
    | cons byte line => simp [content_unended unbroken]
  | line line rest unbroken ih =>
    rw [linesOf_line unbroken, segments_line_append unbroken, List.map_cons, ih]

/-- The complete lines are the segments that have their newline. -/
theorem splitLines_eq (bytes : List UInt8) :
    (splitLines bytes).1 = ((segments bytes).filter isEnded).map content := by
  induction bytes using line_induction with
  | nil => rfl
  | unended line nonempty unbroken =>
    rw [splitLines_unended unbroken, segments_unended unbroken nonempty,
      List.filter_cons_of_neg (by simp [isEnded_unended unbroken])]
    rfl
  | line line rest unbroken ih =>
    rw [splitLines_line unbroken, segments_line_append unbroken,
      List.filter_cons_of_pos (by simp [isEnded]), List.map_cons, ih]

theorem ofText_content (r : Time.Recognizer) (line : List UInt8) :
    r.ofText (lineText (content line)).toList = r.ofBytes line := by
  rw [lineText, String.toList_ofList, ← r.ofBytes_eq, content]
  split
  · rename_i ended
    obtain ⟨front, rfl⟩ := List.getLast?_eq_some_iff.1 ended
    have ended : r.ofBytes (front ++ [newline]) = r.ofBytes front :=
      r.ofBytes_append front (.inl rfl)
    rw [List.dropLast_concat, ended]
    split
    · rename_i returned
      obtain ⟨front, rfl⟩ := List.getLast?_eq_some_iff.1 returned
      rw [List.dropLast_concat, r.ofBytes_append front (.inr rfl)]
    · rfl
  · rfl

end LogQuery.ByteStream

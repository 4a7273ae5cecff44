import Mathlib.Data.List.DropRight
import LogQuery.ByteStream.Basic
import LogQuery.ByteStream.LastDate

/-! Bytes cut behind every newline.

A segment is a line together with the newline that ends it, so the segments of some bytes, one
behind the other, are those bytes. The last segment may lack its newline.
-/

set_option autoImplicit false

namespace LogQuery.ByteStream

/-- The lines of `bytes`, each with the newline that ends it. -/
def segments : (bytes : List UInt8) → List (List UInt8)
  | [] => []
  | byte :: bytes =>
    if byte = newline then [byte] :: segments bytes
    else match segments bytes with
      | [] => [[byte]]
      | line :: lines => (byte :: line) :: lines

def bare (line : List UInt8) : List UInt8 :=
  if line.getLast? = some newline then line.dropLast else line

def dates (dateOf : List UInt8 → Option Time.DateTime) (bytes : List UInt8) : List Time.DateTime :=
  (segments bytes).filterMap fun line => dateOf (bare line)

/-- Are there whole lines only, each with its newline? -/
def IsWhole (bytes : List UInt8) : Prop := bytes = [] ∨ bytes.getLast? = some newline

theorem flatten_segments (bytes : List UInt8) : (segments bytes).flatten = bytes := by
  induction bytes with
  | nil => rfl
  | cons byte bytes ih =>
    unfold segments
    split
    · simp [ih]
    · split
      · rename_i none_left
        simp [none_left] at ih
        simp [← ih]
      · rename_i line lines eq
        rw [eq] at ih
        simpa using ih

theorem segments_unended {line : List UInt8} (unended : newline ∉ line) (nonempty : line ≠ []) :
    segments line = [line] := by
  induction line with
  | nil => exact absurd rfl nonempty
  | cons byte line ih =>
    rw [segments, if_neg (List.ne_of_not_mem_cons unended).symm]
    by_cases last : line = []
    · rw [last]; rfl
    · rw [ih (List.not_mem_of_not_mem_cons unended) last]

theorem segments_line_append {line : List UInt8} (unended : newline ∉ line) (rest : List UInt8) :
    segments (line ++ newline :: rest) = (line ++ [newline]) :: segments rest := by
  induction line with
  | nil => simp [segments]
  | cons byte line ih =>
    rw [List.cons_append, segments, if_neg (List.ne_of_not_mem_cons unended).symm,
      ih (List.not_mem_of_not_mem_cons unended)]
    rfl

/-- Bytes are either one line without a newline, which may be empty, or a line with one and what
stands behind it. -/
@[elab_as_elim]
theorem line_induction {motive : List UInt8 → Prop} (nil : motive [])
    (unended : ∀ line, line ≠ [] → newline ∉ line → motive line)
    (line : ∀ line rest, newline ∉ line → motive rest → motive (line ++ newline :: rest))
    (bytes : List UInt8) : motive bytes := by
  by_cases ended : newline ∈ bytes
  · obtain ⟨first, rest, rfl, unbroken⟩ := List.eq_append_cons_of_mem ended
    exact line first rest unbroken (line_induction nil unended line rest)
  · by_cases nonempty : bytes = []
    · exact nonempty ▸ nil
    · exact unended bytes nonempty ended
termination_by bytes.length
decreasing_by subst_vars; simp; omega

@[simp] theorem segments_eq_nil {bytes : List UInt8} : segments bytes = [] ↔ bytes = [] := by
  constructor
  · intro none_left
    simpa [none_left] using (flatten_segments bytes).symm
  · rintro rfl; rfl

theorem segments_append {front : List UInt8} (whole : IsWhole front) (back : List UInt8) :
    segments (front ++ back) = segments front ++ segments back := by
  induction front using line_induction with
  | nil => rfl
  | unended line nonempty unbroken =>
    rcases whole with rfl | last
    · exact absurd rfl nonempty
    · exact absurd (List.mem_of_getLast? last) unbroken
  | line line rest unbroken ih =>
    -- what stands behind the first newline is whole too, or there is nothing
    have wholeRest : IsWhole rest := by
      rcases whole with empty | last
      · simp at empty
      · rcases List.eq_nil_or_concat rest with none_left | ⟨front, byte, rfl⟩
        · exact .inl none_left
        · right
          simpa [List.getLast?_cons] using last
    rw [List.append_assoc, List.cons_append, segments_line_append unbroken, ih wholeRest,
      segments_line_append unbroken, List.cons_append]

theorem IsWhole.append {front back : List UInt8} (frontWhole : IsWhole front)
    (backWhole : IsWhole back) : IsWhole (front ++ back) := by
  rcases backWhole with rfl | last
  · simpa using frontWhole
  · right
    simp [List.getLast?_append, last]

theorem IsWhole.prepend {back : List UInt8} (whole : IsWhole back) (nonempty : back ≠ [])
    (front : List UInt8) : IsWhole (front ++ back) := by
  right
  simp [List.getLast?_append, whole.resolve_left nonempty]

theorem IsWhole.of_append {front back : List UInt8} (whole : IsWhole (front ++ back)) :
    IsWhole back := by
  rcases List.eq_nil_or_concat back with rfl | ⟨back, byte, rfl⟩
  · exact .inl rfl
  · right
    rw [List.concat_eq_append, ← List.append_assoc] at whole
    simpa [IsWhole] using whole

theorem IsWhole.line_start {bytes : List UInt8} {place : Nat} (bound : place ≤ bytes.length)
    (whole : IsWhole (bytes.take place)) : place = 0 ∨ bytes[place - 1]? = some newline := by
  rcases whole with none_left | ended
  · left
    have length := congrArg List.length none_left
    rw [List.length_take, Nat.min_eq_left bound] at length
    exact length
  · right
    rw [List.getLast?_take] at ended
    split at ended
    · simp at ended
    · have inside : place - 1 < bytes.length := by omega
      simpa [List.getElem?_eq_getElem inside] using ended

/-- Only the last segment may lack its newline. -/
theorem ended_or_last {bytes line : List UInt8} {rest : List (List UInt8)}
    (cut : segments bytes = line :: rest) : line.getLast? = some newline ∨ rest = [] := by
  induction bytes using line_induction with
  | nil => simp [segments] at cut
  | unended bytes nonempty unbroken =>
    rw [segments_unended unbroken nonempty] at cut
    exact .inr (List.cons_eq_cons.1 cut).2.symm
  | line first bytes unbroken =>
    rw [segments_line_append unbroken] at cut
    left
    simp [← (List.cons_eq_cons.1 cut).1]

theorem segments_cut {bytes : List UInt8} {front back : List (List UInt8)}
    (cut : segments bytes = front ++ back) :
    segments front.flatten = front ∧ segments back.flatten = back ∧
      (back ≠ [] → IsWhole front.flatten) := by
  induction bytes using line_induction generalizing front with
  | nil =>
    obtain ⟨rfl, rfl⟩ := List.append_eq_nil_iff.1 cut.symm
    simp [segments]
  | unended line nonempty unbroken =>
    rw [segments_unended unbroken nonempty] at cut
    rcases List.append_eq_singleton_iff.1 cut.symm with ⟨rfl, rfl⟩ | ⟨rfl, rfl⟩
    · simp [segments, segments_unended unbroken nonempty, IsWhole]
    · simp [segments, segments_unended unbroken nonempty]
  | line line rest unbroken ih =>
    rw [segments_line_append unbroken] at cut
    cases front with
    | nil =>
      subst cut
      simp [segments, flatten_segments, segments_line_append unbroken, IsWhole]
    | cons first front =>
      obtain ⟨rfl, further⟩ := List.cons_eq_cons.1 cut
      change segments rest = front ++ back at further
      obtain ⟨frontSegments, backSegments, whole⟩ := ih further
      refine ⟨?_, backSegments, fun more => ?_⟩
      · simp [segments_line_append unbroken, frontSegments]
      · have first : IsWhole (line ++ [newline]) := .inr (by simp)
        exact first.append (whole more)

theorem bare_unended {line : List UInt8} (unended : newline ∉ line) : bare line = line := by
  rw [bare, if_neg fun last => unended (List.mem_of_getLast? last)]

@[simp] theorem bare_ended (line : List UInt8) : bare (line ++ [newline]) = line := by
  simp [bare]

theorem segments_append_of_ended {bytes line : List UInt8} {rest : List (List UInt8)}
    (cut : segments bytes = line :: rest) (ended : line.getLast? = some newline)
    (back : List UInt8) : segments (bytes ++ back) = line :: segments (rest.flatten ++ back) := by
  have bytesEq : bytes = line ++ rest.flatten := by
    rw [← flatten_segments bytes, cut, List.flatten_cons]
  have alone : segments line = [line] := by
    have cut : segments bytes = [line] ++ rest := cut
    simpa using (segments_cut cut).1
  rw [bytesEq, List.append_assoc, segments_append (.inr ended), alone, List.singleton_append]

/-! ### Complete lines -/

def isEnded (line : List UInt8) : Bool := line.getLast? == some newline

/-- The bytes up to the last newline. -/
def wholePart (bytes : List UInt8) : List UInt8 := bytes.rdropWhile (· != newline)

theorem isEnded_unended {line : List UInt8} (unended : newline ∉ line) : isEnded line = false := by
  rw [isEnded, beq_eq_false_iff_ne]
  exact fun last => unended (List.mem_of_getLast? last)

theorem wholePart_unended {line : List UInt8} (unended : newline ∉ line) : wholePart line = [] := by
  rw [wholePart, List.rdropWhile_eq_nil_iff]
  intro byte member
  rw [bne_iff_ne]
  rintro rfl
  exact unended member

theorem wholePart_line (line rest : List UInt8) :
    wholePart (line ++ newline :: rest) = line ++ newline :: wholePart rest := by
  have newline_stays : (newline :: line.reverse).dropWhile (· != newline) =
      newline :: line.reverse := by
    rw [List.dropWhile_cons_of_neg (by simp)]
  rw [wholePart, List.rdropWhile, List.reverse_append, List.reverse_cons, List.append_assoc,
    List.singleton_append, List.dropWhile_append, newline_stays, wholePart, List.rdropWhile]
  split
  · next empty => simp [List.isEmpty_iff.1 empty]
  · simp

theorem segments_wholePart (bytes : List UInt8) :
    segments (wholePart bytes) = (segments bytes).filter isEnded := by
  induction bytes using line_induction with
  | nil => rfl
  | unended line nonempty unbroken =>
    rw [wholePart_unended unbroken, segments_unended unbroken nonempty,
      List.filter_cons_of_neg (by simp [isEnded_unended unbroken])]
    rfl
  | line line rest unbroken ih =>
    rw [wholePart_line, segments_line_append unbroken, segments_line_append unbroken, ih,
      List.filter_cons_of_pos (by simp [isEnded])]

theorem isEnded_of_behind {bytes : List UInt8} {front back : List (List UInt8)}
    (cut : segments bytes = front ++ back) (more : back ≠ []) :
    ∀ line ∈ front, isEnded line = true := by
  intro line member
  obtain ⟨before, behind, rfl⟩ := List.append_of_mem member
  rw [List.append_assoc, List.cons_append] at cut
  rw [isEnded, beq_iff_eq]
  refine (ended_or_last (segments_cut cut).2.1).resolve_right fun none_behind => ?_
  exact more (List.append_eq_nil_iff.1 none_behind).2

section Dates

variable (dateOf : List UInt8 → Option Time.DateTime)

/-- A newline at the end of a line does not count for its date. -/
def IgnoresNewline : Prop := ∀ line, dateOf (bare line) = dateOf line

@[simp] theorem dates_nil : dates dateOf [] = [] := rfl

theorem dates_append {front : List UInt8} (whole : IsWhole front) (back : List UInt8) :
    dates dateOf (front ++ back) = dates dateOf front ++ dates dateOf back := by
  rw [dates, segments_append whole, List.filterMap_append]; rfl

theorem dates_line {line : List UInt8} (unended : newline ∉ line) :
    dates dateOf (line ++ [newline]) = (dateOf line).toList := by
  rw [dates, segments_line_append unended []]
  cases eq : dateOf line <;> simp [segments, eq]

theorem dates_unended {line : List UInt8} (unended : newline ∉ line) (nonempty : line ≠ []) :
    dates dateOf line = (dateOf line).toList := by
  rw [dates, segments_unended unended nonempty]
  cases eq : dateOf line <;> simp [bare_unended unended, eq]

end Dates

/-! ### Regions of a buffer -/

def region (buffer : Array UInt8) (start stop : Nat) : List UInt8 :=
  (buffer.extract start stop).toList

@[simp] theorem region_self (buffer : Array UInt8) (place : Nat) :
    region buffer place place = [] := by
  simp [region]

theorem region_append (buffer : Array UInt8) {start middle stop : Nat} (first : start ≤ middle)
    (second : middle ≤ stop) :
    region buffer start middle ++ region buffer middle stop = region buffer start stop := by
  simp only [region, ← Array.toList_append, Array.extract_append_extract]
  rw [Nat.min_eq_left first, Nat.max_eq_right second]

theorem length_region {buffer : Array UInt8} (start : Nat) {stop : Nat}
    (bound : stop ≤ buffer.size) : (region buffer start stop).length = stop - start := by
  simp [region]
  omega

theorem region_succ {buffer : Array UInt8} {place : Nat} {byte : UInt8}
    (here : buffer[place]? = some byte) : region buffer place (place + 1) = [byte] := by
  obtain ⟨bound, rfl⟩ := Array.getElem?_eq_some_iff.1 here
  simp [region, List.take_one, List.head?_drop, bound]

end LogQuery.ByteStream

import LogQuery.Proofs.ByteStream.LastDate
import LogQuery.Proofs.Time.Recognizer

/-! The search from the end of a region, against reading the region from its beginning.

The checked search cuts slices and looks for newlines in these alone. It fails where a slice does
not lie in its region, or where its turns run out. With one turn for each line it never fails, and
it finds what the search finds: the date that reading all lines in order comes upon last.
-/

set_option autoImplicit false

namespace LogQuery.ByteStream

variable {dateOf : List UInt8 → Option Time.DateTime} {buffer : Array UInt8}
  {start stop first last turns : Nat}

/-! ### Reading from the beginning -/

def scan (dateOf : List UInt8 → Option Time.DateTime) (lines : List (List UInt8)) :
    Option Time.DateTime :=
  lines.foldl (fun found line => (dateOf line).or found) none

theorem scan_eq (dateOf : List UInt8 → Option Time.DateTime) (lines : List (List UInt8)) :
    scan dateOf lines = (lines.filterMap dateOf).getLast? := by
  induction lines using List.reverseRecOn with
  | nil => rfl
  | append_singleton lines line ih =>
    rw [scan] at ih
    rw [scan, List.foldl_concat, ih, List.filterMap_append, List.getLast?_append]
    cases eq : dateOf line <;> simp [eq]

/-- Cut at every newline, bytes have the dates of their lines: a cut behind the last newline leaves
an empty line more, which has none. -/
theorem dates_eq_splitOn (undated : dateOf [] = none) (bytes : List UInt8) :
    dates dateOf bytes = (bytes.splitOn newline).filterMap dateOf := by
  induction bytes using line_induction with
  | nil => simp [undated]
  | unended line nonempty unbroken =>
    rw [dates_unended dateOf unbroken nonempty, List.splitOn_eq_singleton unbroken]
    cases eq : dateOf line <;> simp [eq]
  | line line rest unbroken ih =>
    have whole : IsWhole (line ++ [newline]) := .inr List.getLast?_concat
    rw [List.splitOn_append_cons_self_of_not_mem unbroken, List.append_cons,
      dates_append dateOf whole, dates_line dateOf unbroken, ih]
    cases eq : dateOf line <;> simp [eq]

theorem length_segments_le (bytes : List UInt8) :
    (segments bytes).length ≤ (bytes.splitOn newline).length := by
  induction bytes using line_induction with
  | nil => exact Nat.zero_le _
  | unended line nonempty unbroken =>
    rw [segments_unended unbroken nonempty, List.splitOn_eq_singleton unbroken]
  | line line rest unbroken ih =>
    rw [segments_line_append unbroken, List.splitOn_append_cons_self_of_not_mem unbroken]
    exact Nat.succ_le_succ ih

/-! ### The checked search -/

def slice? (buffer : Array UInt8) (start stop first last : Nat) : Option (List UInt8) :=
  if start ≤ first ∧ first ≤ last ∧ last ≤ stop ∧ stop ≤ buffer.size then
    some (region buffer first last)
  else none

/-- The search for the last date, with one line looked at in each turn. -/
def lastDate? (dateOf : List UInt8 → Option Time.DateTime) (buffer : Array UInt8) (start : Nat) :
    (turns stop : Nat) → Option (Option Time.DateTime)
  | 0, stop => if start < stop then none else some none
  | turns + 1, stop =>
    if start < stop then do
      let final ← slice? buffer start stop (stop - 1) stop
      let lineStop := if final = [newline] then stop - 1 else stop
      let front ← slice? buffer start stop start lineStop
      let lineStart := start + (wholePart front).length
      let line ← slice? buffer start stop lineStart lineStop
      match dateOf line with
      | some date => return some date
      | none => lastDate? dateOf buffer start turns lineStart
    else some none

theorem wholePart_append {front back : List UInt8} (whole : IsWhole front)
    (unended : newline ∉ back) : wholePart (front ++ back) = front := by
  rcases whole with rfl | ended
  · exact wholePart_unended unended
  · obtain ⟨line, rfl⟩ := List.getLast?_eq_some_iff.1 ended
    rw [← List.append_cons, wholePart_line, wholePart_unended unended]

theorem lineStart_eq_add_length (order : start ≤ stop) (bound : stop ≤ buffer.size) :
    lineStart buffer start stop = start + (wholePart (region buffer start stop)).length := by
  obtain ⟨whole, unended⟩ := lineStart_spec buffer order bound
  have forwards := le_lineStart buffer start stop
  have within := lineStart_le buffer order
  rw [← region_append buffer forwards within, wholePart_append whole unended,
    length_region start (Nat.le_trans within bound), Nat.add_sub_cancel' forwards]

theorem lastLine_within (order : start < stop) :
    let line := lastLine buffer start stop
    start ≤ line.1 ∧ line.1 ≤ line.2 ∧ line.2 ≤ stop := by
  have within (lineStop : Nat) (after : start ≤ lineStop) (before : lineStop ≤ stop) :
      start ≤ lineStart buffer start lineStop ∧ lineStart buffer start lineStop ≤ lineStop ∧
        lineStop ≤ stop :=
    ⟨le_lineStart .., lineStart_le buffer after, before⟩
  unfold lastLine
  split
  · exact within (stop - 1) (by omega) (Nat.sub_le ..)
  · exact within stop (Nat.le_of_lt order) (Nat.le_refl stop)

theorem length_segments_lastLine (order : start < stop) (bound : stop ≤ buffer.size) :
    (segments (region buffer start stop)).length =
      (segments (region buffer start (lastLine buffer start stop).1)).length + 1 := by
  rw [(segments_lastLine order bound).1, List.length_append, List.length_singleton]

theorem slice?_eq (lower : start ≤ first) (order : first ≤ last) (upper : last ≤ stop)
    (bound : stop ≤ buffer.size) :
    slice? buffer start stop first last = some (region buffer first last) :=
  if_pos ⟨lower, order, upper, bound⟩

theorem lastDate_of_lt (order : start < stop) :
    let line := lastLine buffer start stop
    lastDate dateOf buffer start stop =
      (dateOf (region buffer line.1 line.2)).or (lastDate dateOf buffer start line.1) := by
  rw [lastDate, dif_pos order]
  dsimp only [region]
  split
  · next date found => rw [found, Option.some_or]
  · next undated => rw [undated, Option.none_or]

theorem lastDate?_succ (order : start < stop) (bound : stop ≤ buffer.size) :
    let line := lastLine buffer start stop
    lastDate? dateOf buffer start (turns + 1) stop =
      (dateOf (region buffer line.1 line.2)).elim (lastDate? dateOf buffer start turns line.1)
        (some ∘ some) := by
  intro line
  obtain ⟨forwards, within, upper⟩ : start ≤ line.1 ∧ line.1 ≤ line.2 ∧ line.2 ≤ stop :=
    lastLine_within order
  have lineStop :
      (if region buffer (stop - 1) stop = [newline] then stop - 1 else stop) = line.2 := by
    -- a slice of one byte is a newline exactly if that byte is
    have here : buffer[stop - 1]? = some buffer[stop - 1] := Array.getElem?_eq_getElem (by omega)
    have final := region_succ here
    rw [Nat.sub_add_cancel (by omega)] at final
    refine if_congr ?_ rfl rfl
    rw [final, here, List.singleton_inj, Option.some.injEq]
  have lineStart : start + (wholePart (region buffer start line.2)).length = line.1 :=
    (lineStart_eq_add_length (Nat.le_trans forwards within) (Nat.le_trans upper bound)).symm
  -- the last byte, then what lies before the line's end, then the line itself
  rw [lastDate?, if_pos order, slice?_eq (by omega) (Nat.sub_le ..) (Nat.le_refl stop) bound,
    Option.bind_eq_bind, Option.bind_some]
  dsimp only
  rw [lineStop, slice?_eq (Nat.le_refl start) (Nat.le_trans forwards within) upper bound,
    Option.bind_some, lineStart, slice?_eq forwards within upper bound, Option.bind_some]
  cases dateOf (region buffer line.1 line.2) <;> rfl

theorem lastDate?_of_not_lt (outside : ¬ start < stop) :
    lastDate? dateOf buffer start turns stop = some (lastDate dateOf buffer start stop) := by
  rw [lastDate, dif_neg outside]
  cases turns <;> exact if_neg outside

/-- With a turn for each line the checked search does not fail, and finds what the search finds. -/
theorem lastDate?_eq (bound : stop ≤ buffer.size)
    (enough : (segments (region buffer start stop)).length ≤ turns) :
    lastDate? dateOf buffer start turns stop = some (lastDate dateOf buffer start stop) := by
  induction turns generalizing stop with
  | zero =>
    refine lastDate?_of_not_lt fun order => ?_
    rw [length_segments_lastLine order bound] at enough
    exact Nat.not_succ_le_zero _ enough
  | succ turns ih =>
    by_cases order : start < stop
    · let line := lastLine buffer start stop
      have shorter : line.1 < stop := lastLine_lt order
      rw [length_segments_lastLine order bound] at enough
      rw [lastDate?_succ order bound, lastDate_of_lt order]
      cases dateOf (region buffer line.1 line.2) with
      | some date => rfl
      | none => exact ih (Nat.le_trans (Nat.le_of_lt shorter) bound) (Nat.le_of_succ_le_succ enough)
    · exact lastDate?_of_not_lt order

/-- Whatever bytes there are between two places of a buffer, and for every recognizer, the search
from the end finds what is found by cutting them at every newline and reading the lines from the
first to the last: the date of the last line that has one. It comes to its end in a turn for each
line at most, and all slices that it cuts lie between the two places. -/
theorem lastDate_eq_scan (r : Time.Recognizer) (bound : stop ≤ buffer.size) :
    let lines := (region buffer start stop).splitOn newline
    lastDate r.ofBytes buffer start stop = scan r.ofBytes lines ∧
      lastDate? r.ofBytes buffer start lines.length stop = some (scan r.ofBytes lines) := by
  intro lines
  have forwards : lastDate r.ofBytes buffer start stop = scan r.ofBytes lines := by
    rw [lastDate_eq r.ofBytes bound, scan_eq, dates_eq_splitOn r.ofBytes_nil]
  exact ⟨forwards, forwards ▸ lastDate?_eq bound (length_segments_le _)⟩

theorem lastDate_amongGaps :
    let buffer := (Text.encode
      "2020-01-01 09:00:00 a\n\n2020-01-02 09:00:00 b\nc\n\n\n2020-01-03 09:00:00 d".toList).toArray
    let r : Time.Recognizer := ⟨0, ⟨1600000000, Time.toNano 0, 0⟩⟩
    let found : Option Time.DateTime := some ⟨1577955600, Time.toNano 0, 0⟩
    49 ≤ buffer.size ∧ ((region buffer 22 49).splitOn newline).length = 6 ∧
      lastDate r.ofBytes buffer 22 49 = found ∧
      lastDate? r.ofBytes buffer 22 6 49 = some found := by
  intro buffer r found
  obtain ⟨bound, lines, read⟩ : 49 ≤ buffer.size ∧
      ((region buffer 22 49).splitOn newline).length = 6 ∧
      scan r.ofBytes ((region buffer 22 49).splitOn newline) = found := by decide +kernel
  obtain ⟨forwards, checked⟩ := @lastDate_eq_scan buffer 22 49 r bound
  rw [lines, read] at checked
  exact ⟨bound, lines, forwards.trans read, checked⟩

end LogQuery.ByteStream

import LogQuery.Proofs.ByteStream.Segments

/-! The search from the end of a region finds what reading it from its beginning finds last. -/

set_option autoImplicit false

namespace LogQuery.ByteStream

/-- What `lineStart` cuts off in front are whole lines, and what it leaves has no newline. -/
theorem lineStart_spec (buffer : Array UInt8) {floor place : Nat} (order : floor ≤ place)
    (bound : place ≤ buffer.size) :
    IsWhole (region buffer floor (lineStart buffer floor place)) ∧
      newline ∉ region buffer (lineStart buffer floor place) place := by
  induction place with
  | zero =>
    obtain rfl : floor = 0 := by omega
    simp [lineStart, IsWhole]
  | succ place ih =>
    unfold lineStart
    split
    · obtain rfl : floor = place + 1 := by omega
      simp [IsWhole]
    · split
      · rename_i ends
        have order : floor ≤ place := by omega
        rw [← region_append buffer order (Nat.le_succ place), region_succ ends]
        simp [IsWhole]
      · rename_i other
        obtain ⟨whole, unended⟩ := ih (by omega) (by omega)
        refine ⟨whole, ?_⟩
        have here : buffer[place]? = some buffer[place] := Array.getElem?_eq_getElem (by omega)
        rw [← region_append buffer (lineStart_le buffer (by omega)) (Nat.le_succ place),
          region_succ here]
        simp only [List.mem_append, List.mem_singleton, not_or]
        exact ⟨unended, fun same => other (by rw [here, same])⟩

theorem lastLine_spec {buffer : Array UInt8} {start stop : Nat} (order : start < stop)
    (bound : stop ≤ buffer.size) :
    let line := lastLine buffer start stop
    start ≤ line.1 ∧ line.1 < stop ∧ IsWhole (region buffer start line.1) ∧
      newline ∉ region buffer line.1 line.2 ∧
      (line.2 = stop ∨ region buffer line.1 stop = region buffer line.1 line.2 ++ [newline]) := by
  refine ⟨le_lineStart .., lastLine_lt order, ?_⟩
  unfold lastLine
  split
  · rename_i ends
    have order : start ≤ stop - 1 := by omega
    have last : stop - 1 + 1 = stop := by omega
    obtain ⟨whole, unended⟩ := lineStart_spec buffer order (by omega)
    refine ⟨whole, unended, .inr ?_⟩
    -- the newline at the end is looked over, and only then put back
    have split := region_append buffer (lineStart_le buffer order) (Nat.le_succ (stop - 1))
    rwa [Nat.succ_eq_add_one, region_succ ends, last, eq_comm] at split
  · obtain ⟨whole, unended⟩ := lineStart_spec buffer (Nat.le_of_lt order) bound
    exact ⟨whole, unended, .inl rfl⟩

theorem segments_lastLine {buffer : Array UInt8} {start stop : Nat} (order : start < stop)
    (bound : stop ≤ buffer.size) :
    let line := lastLine buffer start stop
    segments (region buffer start stop) =
        segments (region buffer start line.1) ++ [region buffer line.1 stop] ∧
      bare (region buffer line.1 stop) = region buffer line.1 line.2 := by
  intro line
  obtain ⟨forwards, shorter, whole, unended, ending⟩ :
      start ≤ line.1 ∧ line.1 < stop ∧ IsWhole (region buffer start line.1) ∧
        newline ∉ region buffer line.1 line.2 ∧
        (line.2 = stop ∨
          region buffer line.1 stop = region buffer line.1 line.2 ++ [newline]) :=
    lastLine_spec order bound
  rw [← region_append buffer forwards (Nat.le_of_lt shorter), segments_append whole]
  rcases ending with same | ended
  · have nonempty : region buffer line.1 stop ≠ [] := by
      rw [← List.length_pos_iff, length_region line.1 bound]
      exact Nat.sub_pos_of_lt shorter
    rw [same] at unended ⊢
    rw [segments_unended unended nonempty]
    exact ⟨rfl, bare_unended unended⟩
  · rw [ended, segments_line_append unended]
    exact ⟨rfl, bare_ended _⟩

theorem dates_lastLine (dateOf : List UInt8 → Option Time.DateTime) {buffer : Array UInt8}
    {start stop : Nat} (order : start < stop) (bound : stop ≤ buffer.size) :
    let line := lastLine buffer start stop
    dates dateOf (region buffer start stop) =
      dates dateOf (region buffer start line.1) ++
        (dateOf (region buffer line.1 line.2)).toList := by
  intro line
  obtain ⟨cut, less⟩ := segments_lastLine order bound
  rw [dates, cut, List.filterMap_append, ← dates]
  cases eq : dateOf (region buffer line.1 line.2) <;> simp [less, line, eq]

theorem lastDate_eq (dateOf : List UInt8 → Option Time.DateTime) {buffer : Array UInt8}
    {start stop : Nat} (bound : stop ≤ buffer.size) :
    lastDate dateOf buffer start stop = (dates dateOf (region buffer start stop)).getLast? := by
  fun_induction lastDate dateOf buffer start stop with
  | case1 stop order line date found =>
    have split := dates_lastLine dateOf order bound
    change dateOf (region buffer line.1 line.2) = some date at found
    rw [split, found]
    simp
  | case2 stop order line undated ih =>
    have split := dates_lastLine dateOf order bound
    change dateOf (region buffer line.1 line.2) = none at undated
    rw [split, undated]
    -- without a date, the last line leaves the answer to those before it
    have shorter : line.1 < stop := lastLine_lt order
    simpa using ih (by omega)
  | case3 stop order =>
    have empty : region buffer start stop = [] := by
      simp [region]
      omega
    simp [empty]

end LogQuery.ByteStream

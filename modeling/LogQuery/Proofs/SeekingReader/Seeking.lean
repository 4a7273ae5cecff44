import LogQuery.Proofs.SeekingReader.Clearing
import LogQuery.Proofs.SeekingReader.Filling

/-! The blocks that seeking drops, and where it leaves the reader. -/

set_option autoImplicit false

namespace LogQuery.SeekingReader

open ByteStream

/-- What seeking makes of a reader whose buffer holds no newline. `dropped` are the bytes that are
left out as lying ahead of the window. -/
structure Seeks (before : SeekingReader) (dropped : List UInt8) (after : SeekingReader) : Prop where
  same : after = { before with
    buffer := after.buffer, stream := after.stream, bytesRead := after.bytesRead,
    isExhausted := after.isExhausted, failure := after.failure,
    bytesSkipped := before.bytesSkipped + dropped.length }
  split : before.buffer.toList ++ before.unread = dropped ++ after.buffer.toList ++ after.unread
  whole : IsWhole dropped ∨ (after.isAtEnd = true ∧ after.buffer = #[])
  bytesRead : after.bytesRead + after.unread.length = before.bytesRead + before.unread.length
  ending : after.ending = before.ending
  early : (dates before.dateOf (before.buffer.toList ++ before.unread)).Pairwise (· ≤ ·) →
    ∀ d ∈ dates before.dateOf dropped, d < before.window.start
  kept :
    (∃ d ∈ dates before.dateOf (after.buffer.toList ++ after.unread), before.window.start ≤ d) ∨
    (after.isAtEnd = true ∧ after.buffer = #[])
  /-- newlines in the buffer stand in its last block -/
  recent : ∃ scanned ≤ after.buffer.size, newline ∉ region after.buffer 0 scanned ∧
    after.buffer.size ≤ scanned + before.blockSize

theorem region_all (buffer : Array UInt8) : region buffer 0 buffer.size = buffer.toList := by
  simp [region]

theorem Fills.size_le {before after : SeekingReader} (fills : Fills before after) :
    before.buffer.size ≤ after.buffer.size ∧
      after.buffer.size ≤ before.buffer.size + before.blockSize := by
  rw [fills.buffer, size_append_list]
  exact ⟨Nat.le_add_right _ _, Nat.add_le_add_left (List.length_take_le _ _) _⟩

theorem Fills.region_eq {before after : SeekingReader} (fills : Fills before after) (start : Nat)
    {stop : Nat} (bound : stop ≤ before.buffer.size) :
    region after.buffer start stop = region before.buffer start stop := by
  have inside : before.buffer.toList.length ≥ stop := by simpa using bound
  simp only [fills.buffer, region, Array.toList_extract, Array.toList_appendList,
    List.extract_eq_take_drop, ← List.drop_take]
  rw [List.take_append_of_le_length inside]

theorem Fills.bytes {before after : SeekingReader} (fills : Fills before after) :
    after.buffer.toList ++ after.unread = before.buffer.toList ++ before.unread := by
  simp [fills.buffer, fills.unread]

theorem Fills.completeUpTo {before after : SeekingReader} (fills : Fills before after)
    {start : Nat} (bound : start ≤ before.buffer.size)
    (unended : newline ∉ region before.buffer start before.buffer.size) :
    CompleteUpTo after start (after.completeEnd start before.buffer.size) :=
  completeEnd_spec bound fills.size_le.1 (by rwa [fills.region_eq start (Nat.le_refl _)])

theorem lt_of_getLast? {dates : List Time.DateTime} {start : Time.DateTime}
    (ordered : dates.Pairwise (· ≤ ·)) (notKept : ¬ dates.getLast?.any (start ≤ ·) = true) :
    ∀ d ∈ dates, d < start := by
  intro d member
  cases last : dates.getLast? with
  | none => simp [List.getLast?_eq_none_iff.1 last] at member
  | some latest =>
    rw [last, Option.any_some, decide_eq_true_eq, Time.DateTime.not_le] at notKept
    exact Time.DateTime.lt_of_le_of_lt (Time.DateTime.le_of_getLast? ordered last member) notKept

theorem skip_buffer (reader : SeekingReader) (count : Nat) :
    (reader.skip count).buffer.toList = region reader.buffer count reader.buffer.size := rfl

section Block

variable {reader filled : SeekingReader} (fills : Fills reader filled) {stop : Nat}

include fills

theorem Seeks.keeps (unended : newline ∉ region reader.buffer 0 reader.buffer.size)
    (complete : CompleteUpTo filled 0 stop)
    (reaches : (dates reader.dateOf (region filled.buffer 0 stop)).getLast?.any
      (reader.window.start ≤ ·) = true) : Seeks reader [] filled where
  same := by rw [fills.same]; rfl
  split := by simp [fills.bytes]
  whole := .inl (.inl rfl)
  bytesRead := by rw [fills.bytesRead, fills.unread, List.length_drop]; omega
  ending := fills.ending
  early := by simp
  kept := by
    obtain ⟨d, last, reaches⟩ := (Option.any_eq_true _ _).1 reaches
    have sameDates : filled.dateOf = reader.dateOf := by rw [fills.same]
    refine .inl ⟨d, ?_, by simpa using reaches⟩
    rw [← sameDates] at last ⊢
    rw [← region_all, complete.dates_append]
    exact List.mem_append_left _ (List.mem_of_getLast? last)
  recent := ⟨reader.buffer.size, fills.size_le.1,
    by rwa [fills.region_eq 0 (Nat.le_refl _)], fills.size_le.2⟩

theorem Seeks.ends (atEnd : filled.isAtEnd = true)
    (notKept : ¬ (dates reader.dateOf filled.buffer.toList).getLast?.any
      (reader.window.start ≤ ·) = true) :
    Seeks reader filled.buffer.toList (filled.skip filled.buffer.size) := by
  have bytes := fills.bytes
  have none_left : filled.unread = [] := unread_of_atEnd atEnd
  have stillNone : (filled.skip filled.buffer.size).unread = [] := none_left
  have empty : (filled.skip filled.buffer.size).buffer = #[] := by simp [skip]
  rw [none_left, List.append_nil] at bytes
  constructor
  case same => rw [skip, fills.same]; simp
  case split => rw [empty, stillNone, bytes]; simp
  case whole => exact .inr ⟨atEnd, empty⟩
  case bytesRead =>
    rw [stillNone, skip, fills.bytesRead]
    have := congrArg List.length (fills.unread.symm.trans none_left)
    simp at this ⊢
    omega
  case ending => exact fills.ending
  case early =>
    intro ordered
    rw [← bytes] at ordered
    exact lt_of_getLast? ordered notKept
  case kept => exact .inr ⟨atEnd, empty⟩
  case recent => exact ⟨0, by simp, by simp, by simp [empty]⟩

theorem Seeks.drops (complete : CompleteUpTo filled 0 stop) (goesOn : filled.isAtEnd = false)
    (notKept : ¬ (dates reader.dateOf (region filled.buffer 0 stop)).getLast?.any
      (reader.window.start ≤ ·) = true)
    {dropped : List UInt8} {after : SeekingReader}
    (further : Seeks (filled.skip stop) dropped after) :
    Seeks reader (region filled.buffer 0 stop ++ dropped) after := by
  have whole : IsWhole (region filled.buffer 0 stop) := complete.whole goesOn
  have split : reader.buffer.toList ++ reader.unread =
      region filled.buffer 0 stop ++
        ((filled.skip stop).buffer.toList ++ (filled.skip stop).unread) := by
    rw [← fills.bytes, skip_buffer, ← List.append_assoc,
      region_append filled.buffer (Nat.zero_le _) complete.bound, region_all]
    rfl
  have sameDates : (filled.skip stop).dateOf = reader.dateOf := by rw [skip, fills.same]
  have sameWindow : (filled.skip stop).window = reader.window := by rw [skip, fills.same]
  constructor
  case same =>
    rw [further.same, skip, fills.same]
    simp [length_region 0 complete.bound, Nat.add_assoc]
  case split => rw [split, further.split]; simp
  case whole => exact further.whole.imp_left fun rest => whole.append rest
  case bytesRead =>
    rw [further.bytesRead]
    change filled.bytesRead + filled.unread.length = _
    rw [fills.bytesRead, fills.unread, List.length_drop]
    omega
  case ending => rw [further.ending]; exact fills.ending
  case early =>
    intro ordered d member
    rw [split, dates_append _ whole] at ordered
    obtain ⟨front, back, _⟩ := List.pairwise_append.1 ordered
    rw [dates_append _ whole] at member
    -- the dates of this block, and those of the blocks behind it
    rcases List.mem_append.1 member with first | rest
    · exact lt_of_getLast? front notKept d first
    · rw [← sameDates] at back rest
      rw [← sameWindow]
      exact further.early back d rest
  case kept => simpa only [sameDates, sameWindow] using further.kept
  case recent =>
    have same : (filled.skip stop).blockSize = reader.blockSize := by rw [skip, fills.same]
    simpa only [same] using further.recent

end Block

/-- Seeking drops whole lines with no date in the window, or everything. -/
theorem seek_spec {reader : SeekingReader} (goesOn : reader.isAtEnd = false)
    (unended : newline ∉ region reader.buffer 0 reader.buffer.size) :
    ∃ dropped, Seeks reader dropped reader.seek := by
  fun_induction seek reader with
  | case1 reader scanned filled stop kept =>
    have fills : Fills reader filled := fill_spec goesOn
    have complete : CompleteUpTo filled 0 stop := fills.completeUpTo (Nat.zero_le _) unended
    rw [lastDate_eq _ complete.bound, fills.same] at kept
    exact ⟨[], .keeps fills unended complete kept⟩
  | case2 reader scanned filled stop notKept atEnd =>
    have fills : Fills reader filled := fill_spec goesOn
    have complete : CompleteUpTo filled 0 stop := fills.completeUpTo (Nat.zero_le _) unended
    rw [lastDate_eq _ complete.bound, complete.full atEnd, region_all, fills.same] at notKept
    exact ⟨_, .ends fills atEnd notKept⟩
  | case3 reader scanned filled stop notKept notAtEnd ih =>
    have fills : Fills reader filled := fill_spec goesOn
    have complete : CompleteUpTo filled 0 stop := fills.completeUpTo (Nat.zero_le _) unended
    have goesOn : filled.isAtEnd = false := by simpa using notAtEnd
    rw [lastDate_eq _ complete.bound, fills.same] at notKept
    obtain ⟨dropped, further⟩ := ih goesOn (by
      rw [region_all, skip_buffer]
      exact complete.unended goesOn)
    exact ⟨_, .drops fills complete goesOn notKept further⟩

end LogQuery.SeekingReader

import LogQuery.Proofs.SeekingReader.Reads

/-! Everything that a reader serves, from now to its end.

The flow of a reader is what it serves if each block is served at once. Reads only cut the flow into
pieces: the blocks that are read, and where they end, are the same for all sizes of reads.
-/

set_option autoImplicit false

namespace LogQuery.SeekingReader

open ByteStream

def settle (reader : SeekingReader) : SeekingReader :=
  { reader with served := max reader.served reader.cleared }

/-- All that a reader serves that has come to the window, and the reader at its end. -/
def flow (reader : SeekingReader) : List UInt8 × SeekingReader :=
  if reader.lateFound then (reader.due, reader.settle)
  else if _h : reader.isAtEnd then (reader.due, reader.settle)
  else
    let (rest, final) := flow reader.settle.advance
    (reader.due ++ rest, final)
termination_by reader.ahead
decreasing_by
  have goesOn : reader.isAtEnd = false := by simpa using _h
  change reader.settle.isAtEnd = false at goesOn
  exact ahead_advance goesOn

theorem flow_ended {reader : SeekingReader}
    (ended : reader.lateFound = true ∨ reader.isAtEnd = true) :
    reader.flow = (reader.due, reader.settle) := by
  rw [flow]
  rcases ended with late | atEnd
  · rw [if_pos late]
  · rw [dif_pos atEnd, ite_self]

theorem flow_goesOn {reader : SeekingReader} (none_late : reader.lateFound = false)
    (goesOn : reader.isAtEnd = false) :
    reader.flow =
      (reader.due ++ reader.settle.advance.flow.1, reader.settle.advance.flow.2) := by
  rw [flow, if_neg (by simp [none_late]), dif_neg (by simp [goesOn])]

theorem settle_eq {reader : SeekingReader} (none_due : reader.cleared ≤ reader.served) :
    reader.settle = reader := by
  rw [settle, Nat.max_eq_left none_due]

theorem flow_nothing {reader : SeekingReader} (none_due : reader.cleared ≤ reader.served)
    (ended : reader.lateFound = true ∨ reader.isAtEnd = true) : reader.flow = ([], reader) := by
  rw [flow_ended ended, due_eq_nil none_due, settle_eq none_due]

def tellEnd (reader : SeekingReader) : Option Failure × SeekingReader :=
  match reader.failure with
  | some cause =>
    if reader.lateFound then (none, reader)
    else (some cause, { reader with failure := none, isExhausted := true })
  | none => (none, reader)

theorem tellEnd_frame (reader : SeekingReader) :
    reader.tellEnd.2.bytesRead = reader.bytesRead ∧
      reader.tellEnd.2.bytesSkipped = reader.bytesSkipped ∧
      reader.tellEnd.2.lateFound = reader.lateFound := by
  unfold tellEnd
  repeat' split
  all_goals exact ⟨rfl, rfl, rfl⟩

/-- What a read has to do with the flow: bytes that it brings are the first of it; if it brings
none, or fails, there are none left. -/
inductive Serves (n : Nat) (before : SeekingReader) :
    Except Failure (List UInt8) × SeekingReader → Prop where
  | bytes {data : List UInt8} {after : SeekingReader}
    (nonempty : 0 < n → after.cleared ≤ after.buffer.size → data ≠ [])
    (flow : before.flow = (data ++ after.flow.1, after.flow.2)) : Serves n before (.ok data, after)
  | ended {after : SeekingReader} (empty : before.flow.1 = [])
    (told : before.flow.2.tellEnd = (none, after)) : Serves n before (.ok [], after)
  | failed {cause : Failure} {after : SeekingReader} (empty : before.flow.1 = [])
    (told : before.flow.2.tellEnd = (some cause, after)) : Serves n before (.error cause, after)

theorem Serves.of_flow {n : Nat} {before later : SeekingReader}
    {result : Except Failure (List UInt8) × SeekingReader} (serves : Serves n later result)
    (same : before.flow = later.flow) : Serves n before result := by
  cases serves with
  | bytes nonempty first => exact .bytes nonempty (same.trans first)
  | ended empty told => exact .ended (by rw [same]; exact empty) (by rw [same]; exact told)
  | failed empty told => exact .failed (by rw [same]; exact empty) (by rw [same]; exact told)

theorem flow_give {reader after : SeekingReader} {stop : Nat} (lower : reader.served ≤ stop)
    (upper : stop ≤ reader.cleared) (given : after = { reader with served := stop }) :
    reader.flow = (region reader.buffer reader.served stop ++ after.flow.1, after.flow.2) := by
  have due : reader.due = region reader.buffer reader.served stop ++ after.due := by
    rw [given]
    exact (region_append reader.buffer lower upper).symm
  have settled : after.settle = reader.settle := by
    rw [given, settle, settle, Nat.max_eq_right upper, Nat.max_eq_right (Nat.le_trans lower upper)]
  have late : after.lateFound = reader.lateFound := by rw [given]
  have atEnd : after.isAtEnd = reader.isAtEnd := by rw [given]; rfl
  -- serving does not change whether another block is read, nor which
  by_cases ended : reader.lateFound = true ∨ reader.isAtEnd = true
  · rw [flow_ended ended, flow_ended (by rwa [late, atEnd]), due, settled]
  · simp only [not_or, Bool.not_eq_true] at ended
    rw [flow_goesOn ended.1 ended.2, flow_goesOn (late.trans ended.1) (atEnd.trans ended.2), due,
      settled, List.append_assoc]

theorem serves_serve (n : Nat) (reader : SeekingReader) : Serves n reader (reader.serve n) := by
  fun_induction serve n reader with
  | case1 reader ready stop =>
    refine .bytes (fun positive bound empty => ?_) (flow_give (by omega) (by omega) rfl)
    have inside : stop ≤ reader.buffer.size := Nat.le_trans (Nat.min_le_right _ _) bound
    have length := length_region reader.served inside
    change region reader.buffer reader.served stop = [] at empty
    rw [empty, List.length_nil] at length
    omega
  | case2 reader none_due late =>
    have flow := flow_nothing (Nat.le_of_not_lt none_due) (.inl late)
    refine .ended (by rw [flow]) ?_
    rw [flow, tellEnd]
    cases reader.failure <;> simp [late]
  | case3 reader none_due none_late atEnd cause failure =>
    have flow := flow_nothing (Nat.le_of_not_lt none_due) (.inr atEnd)
    refine .failed (by rw [flow]) ?_
    rw [flow, tellEnd, failure]
    simp [none_late]
  | case4 reader none_due none_late atEnd none_left =>
    have flow := flow_nothing (Nat.le_of_not_lt none_due) (.inr atEnd)
    exact .ended (by rw [flow]) (by rw [flow, tellEnd, none_left])
  -- nothing is due, so one more block is read, which leaves the flow as it is
  | case5 reader none_due none_late goesOn ih =>
    have none_due := Nat.le_of_not_lt none_due
    refine ih.of_flow ?_
    rw [flow_goesOn (by simpa using none_late) (by simpa using goesOn), settle_eq none_due,
      due_eq_nil none_due, List.nil_append]

/-! ### One read -/

theorem flow_read {reader after : SeekingReader} {n : Nat} {byte : UInt8} {data : List UInt8}
    (read : reader.read n = (.ok (byte :: data), after)) :
    reader.start.flow = (byte :: data ++ after.start.flow.1, after.start.flow.2) := by
  rcases Nat.eq_zero_or_pos n with rfl | positive
  · simp [read_zero] at read
  rw [read_of_pos positive] at read
  have started : after.hasStarted = true := by
    have frame := (serve_frame n reader.start).1
    rw [read, hasStarted_start] at frame
    exact frame
  have serves := serves_serve n reader.start
  rw [read] at serves
  rw [start_of_started started]
  cases serves with
  | bytes nonempty flow => exact flow

theorem flow_final (reader : SeekingReader) : reader.flow.2.flow = ([], reader.flow.2) := by
  fun_induction flow reader with
  | case1 reader late => exact flow_nothing (Nat.le_max_right _ _) (.inl late)
  | case2 reader none_late atEnd => exact flow_nothing (Nat.le_max_right _ _) (.inr atEnd)
  | case3 reader none_late goesOn rest final next ih =>
    rw [next] at ih
    exact ih

theorem eq_of_tellEnd {reader after : SeekingReader} (told : reader.tellEnd = (none, after)) :
    after = reader := by
  unfold tellEnd at told
  repeat' split at told
  all_goals cases told
  all_goals rfl

theorem Reading.read_none {source reader after : SeekingReader} {given : List UInt8} {n : Nat}
    (reading : Reading source given reader) (positive : 0 < n)
    (read : reader.read n = (.ok [], after)) :
    reader.start.flow = ([], after) ∧ after.tellEnd = (none, after) ∧
      after.start.flow = ([], after) := by
  obtain ⟨standing, _⟩ := (reading.read n).2 positive
  have started : after.hasStarted = true := by
    have frame := (serve_frame n reader.start).1
    rw [← read_of_pos positive, read, hasStarted_start] at frame
    exact frame
  have serves := serves_serve n reader.start
  rw [← read_of_pos positive, read] at serves
  rw [read] at standing
  cases serves with
  | bytes nonempty flow => exact absurd rfl (nonempty positive standing.cleared_le)
  | ended empty told =>
    have same := eq_of_tellEnd told
    rw [start_of_started started, same, flow_final, ← same]
    exact ⟨Prod.ext empty same.symm, by rw [same]; exact same ▸ told, rfl⟩

theorem read_failed {reader after : SeekingReader} {cause : Failure} {n : Nat}
    (read : reader.read n = (.error cause, after)) :
    reader.start.flow.1 = [] ∧ reader.start.flow.2.tellEnd = (some cause, after) := by
  rcases Nat.eq_zero_or_pos n with rfl | positive
  · simp [read_zero] at read
  rw [read_of_pos positive] at read
  have serves := serves_serve n reader.start
  rw [read] at serves
  cases serves with
  | failed empty told => exact ⟨empty, told⟩

/-! ### Reading until the end -/

/-- Reads until one brings nothing or fails; `sizes` are how many bytes they ask for, one after the
other. The answer is all bytes that they bring, the failure, and the reader after them. -/
def exhaust (sizes : Nat → Nat) (reader : SeekingReader) :
    List UInt8 × Option Failure × SeekingReader :=
  match _read : reader.read (sizes 0) with
  | (.ok [], after) => ([], none, after)
  | (.ok (byte :: data), after) =>
    let (rest, failure, final) := exhaust (fun i => sizes (i + 1)) after
    (byte :: data ++ rest, failure, final)
  | (.error cause, after) => ([], some cause, after)
termination_by reader.start.flow.1.length
decreasing_by
  rw [flow_read _read, List.length_append, List.length_cons]
  omega

section Standing

variable {source reader : SeekingReader} {given : List UInt8}

theorem Standing.settle (standing : Standing source given reader) :
    Standing source (given ++ reader.due) reader.settle := by
  have given := standing.give standing.served_le (Nat.le_refl reader.cleared)
  rwa [SeekingReader.settle, Nat.max_eq_right standing.served_le]

theorem Standing.flow (standing : Standing source given reader) :
    Standing source (given ++ reader.flow.1) reader.flow.2 ∧ HasEnded reader.flow.2 := by
  fun_induction SeekingReader.flow reader generalizing given with
  | case1 reader late =>
    exact ⟨standing.settle, Nat.le_max_right _ _, .inl late⟩
  | case2 reader none_late atEnd =>
    exact ⟨standing.settle, Nat.le_max_right _ _, .inr atEnd⟩
  | case3 reader none_late goesOn rest final next ih =>
    rw [next] at ih
    rw [← List.append_assoc]
    exact ih (standing.settle.advance (Nat.le_max_right _ _) (Bool.eq_false_iff.2 goesOn)
      (Bool.eq_false_iff.2 none_late))

/-- Reads that go on to the end bring the flow, whatever their sizes are. -/
theorem exhaust_eq (reading : Reading source given reader) {sizes : Nat → Nat}
    (positive : ∀ i, 0 < sizes i) :
    reader.exhaust sizes = (reader.start.flow.1, reader.start.flow.2.tellEnd) := by
  fun_induction exhaust sizes reader generalizing given with
  | case1 sizes reader after read =>
    obtain ⟨flow, told, _⟩ := reading.read_none (positive 0) read
    rw [flow, told]
  | case2 sizes reader byte data after read rest failure final further ih =>
    have reading := (reading.read (sizes 0)).1
    rw [read] at reading
    rw [flow_read read]
    rw [ih reading fun i => positive (i + 1)] at further
    obtain ⟨rfl, told⟩ := Prod.mk.inj further
    rw [told]
  | case3 sizes reader cause after read =>
    obtain ⟨empty, told⟩ := read_failed read
    rw [empty, told]

end Standing

/-! ### The failure that ends the stream -/

theorem ending_clear (reader : SeekingReader) (scanned : Nat) :
    (reader.clear scanned).ending = reader.ending := by
  unfold clear
  dsimp only
  repeat' split
  all_goals rfl

theorem ending_advance {reader : SeekingReader} (goesOn : reader.isAtEnd = false) :
    reader.advance.ending = reader.ending := by
  have fills : Fills reader.compact reader.compact.fill := fill_spec goesOn
  rw [advance, ending_clear, fills.ending]
  rfl

theorem ending_start {source : SeekingReader} (fresh : IsFresh source) :
    source.start.ending = source.ending := by
  obtain ⟨dropped, seeks⟩ := seek_spec fresh.atEnd (by simp [fresh.buffer])
  rw [start, if_neg (by simp [fresh.hasStarted]), ending_clear, ← seeks.ending]
  rfl

theorem ending_flow (reader : SeekingReader) : reader.flow.2.ending = reader.ending := by
  fun_induction flow reader with
  | case1 | case2 => rfl
  | case3 reader none_late goesOn rest final next ih =>
    have still : reader.settle.isAtEnd = false := Bool.eq_false_iff.2 goesOn
    rw [next] at ih
    rw [ih, ending_advance still]
    rfl

theorem tellEnd_of_late {reader : SeekingReader} (late : reader.lateFound = true) :
    reader.tellEnd.1 = none := by
  rw [tellEnd]
  cases reader.failure <;> simp [late]

theorem tellEnd_of_timely {reader : SeekingReader} (ended : HasEnded reader)
    (none_late : reader.lateFound = false) : reader.tellEnd.1 = reader.ending := by
  have atEnd : reader.isAtEnd = true := ended.2.resolve_left (by simp [none_late])
  rw [tellEnd, SeekingReader.ending, if_pos atEnd, none_late]
  cases reader.failure <;> rfl

/-! ### Reads of one size -/

theorem length_readAll_le (stream : ByteStream) : stream.readAll.1.length ≤ stream.size := by
  induction stream with
  | nil => exact Nat.le_refl 0
  | cons event rest ih =>
    cases event with
    | bytes data => simp only [readAll_bytes, List.length_append, ByteStream.size]; omega
    | failure cause =>
      cases again : cause.isInterruption with
      | true => simp only [readAll_interruption again, ByteStream.size]; omega
      | false => simp [readAll_failure again]

theorem drainFrom_eq {n : Nat} {sizes : Nat → Nat} (same : ∀ i, sizes i = n)
    {reader : SeekingReader} (drained : Array UInt8) {fuel : Nat}
    (enough : reader.start.flow.1.length < fuel) :
    reader.drainFrom n drained fuel =
      (drained ++ (reader.exhaust sizes).1, (reader.exhaust sizes).2) := by
  fun_induction exhaust sizes reader generalizing drained fuel with
  | case1 sizes reader after read =>
    obtain ⟨fuel, rfl⟩ := Nat.exists_eq_succ_of_ne_zero (Nat.ne_zero_of_lt enough)
    rw [same 0] at read
    simp [drainFrom, read]
  | case2 sizes reader byte data after read rest failure final further ih =>
    obtain ⟨fuel, rfl⟩ := Nat.exists_eq_succ_of_ne_zero (Nat.ne_zero_of_lt enough)
    rw [flow_read read, List.length_append, List.length_cons] at enough
    rw [same 0] at read
    -- this read brought a byte at least, so one fuel less is enough for the rest
    have remaining : after.start.flow.1.length < fuel := by omega
    have later := ih (fun i => same (i + 1)) (drained ++ (byte :: data)) remaining
    rw [further] at later
    simp only [drainFrom, read, later, append_list_append]
  | case3 sizes reader cause after read =>
    obtain ⟨fuel, rfl⟩ := Nat.exists_eq_succ_of_ne_zero (Nat.ne_zero_of_lt enough)
    rw [same 0] at read
    simp [drainFrom, read]

/-- As many reads as there may be are enough. -/
theorem drain_eq {reader : SeekingReader} (fresh : IsFresh reader) (n : Nat) :
    reader.drain n = reader.exhaust fun _ => n := by
  have bound := (standing_start fresh).1.flow.1.skipped_given_le
  have := length_readAll_le reader.stream
  rw [unread_of_goesOn fresh.atEnd, List.nil_append] at bound
  rw [drain, drainFrom_eq (fun _ => rfl) #[] (by rw [readsAhead]; omega)]
  simp

end LogQuery.SeekingReader

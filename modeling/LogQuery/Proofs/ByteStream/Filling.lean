import LogQuery.ByteStream.Filling

/-! A filled block holds the next bytes of the stream, however the stream cuts them into reads. -/

set_option autoImplicit false

namespace LogQuery.ByteStream

def BlockEnd.ofEnd : (failure : Option Failure) → BlockEnd
  | none => .exhausted
  | some cause => .failed cause

theorem readAll_bytes (data : List UInt8) (rest : ByteStream) :
    readAll (.bytes data :: rest) = (data ++ (readAll rest).1, (readAll rest).2) := rfl

theorem readAll_interruption {cause : Failure} (again : cause.isInterruption = true)
    (rest : ByteStream) : readAll (.failure cause :: rest) = readAll rest := by
  simp [readAll, again]

theorem readAll_failure {cause : Failure} (final : cause.isInterruption = false)
    (rest : ByteStream) : readAll (.failure cause :: rest) = ([], some cause) := by
  simp [readAll, final]

theorem readAll_append {front : ByteStream} {bytes : List UInt8}
    (unbroken : readAll front = (bytes, none)) (back : ByteStream) :
    readAll (front ++ back) = (bytes ++ (readAll back).1, (readAll back).2) := by
  induction front generalizing bytes with
  | nil =>
    cases unbroken
    rfl
  | cons event front ih =>
    cases event with
    | bytes data =>
      rw [readAll_bytes, Prod.mk.injEq] at unbroken
      obtain ⟨rfl, none_told⟩ := unbroken
      rw [List.cons_append, readAll_bytes, ih (Prod.ext rfl none_told), List.append_assoc]
    | failure cause =>
      cases interrupted : cause.isInterruption with
      | true =>
        rw [readAll_interruption interrupted] at unbroken
        rw [List.cons_append, readAll_interruption interrupted, ih unbroken]
      | false =>
        rw [readAll_failure interrupted] at unbroken
        cases unbroken

theorem fillFrom_no_room (buffer : Array UInt8) (stream : ByteStream) :
    fillFrom buffer 0 stream = (buffer, .full, stream) := by
  cases stream <;> rfl

theorem append_list_append (buffer : Array UInt8) (first second : List UInt8) :
    buffer ++ first ++ second = buffer ++ (first ++ second) := by
  simp [← Array.toList_inj]

/-- A block that the stream can fill takes just its bytes from it. -/
theorem fillFrom_of_le (buffer : Array UInt8) {room : Nat} {stream : ByteStream}
    (enough : room ≤ stream.readAll.1.length) :
    (fillFrom buffer room stream).1 = buffer ++ stream.readAll.1.take room ∧
      (fillFrom buffer room stream).2.1 = .full ∧
      (fillFrom buffer room stream).2.2.readAll =
        (stream.readAll.1.drop room, stream.readAll.2) := by
  induction stream generalizing buffer room with
  | nil =>
    obtain rfl : room = 0 := by simpa [readAll] using enough
    simp [fillFrom_no_room, readAll]
  | cons event rest ih =>
    by_cases no_room : room = 0
    · subst no_room
      simp [fillFrom_no_room]
    cases event with
    | bytes data =>
      rw [readAll_bytes] at enough ⊢
      rcases Nat.lt_or_ge room data.length with long | short
      · -- this read brings more than there is room for
        obtain ⟨byte, left, eq⟩ : ∃ byte left, data.drop room = byte :: left :=
          List.exists_cons_of_length_pos (by simp; omega)
        simp [fillFrom, no_room, moveOnto_eq, eq, readAll_bytes,
          List.take_append_of_le_length (Nat.le_of_lt long),
          List.drop_append_of_le_length (Nat.le_of_lt long)]
      · simp only [List.length_append] at enough
        have enough : room - data.length ≤ (readAll rest).1.length := by omega
        obtain ⟨filled, full, left⟩ := ih (buffer ++ data) enough
        simp [fillFrom, no_room, moveOnto_eq, List.drop_eq_nil_of_le short,
          List.take_of_length_le short, filled, full, left, List.take_append, List.drop_append,
          append_list_append]
    | failure cause =>
      cases again : cause.isInterruption with
      | true =>
        rw [readAll_interruption again] at enough ⊢
        simpa [fillFrom, no_room, again] using ih buffer enough
      | false =>
        rw [readAll_failure again] at enough
        simp at enough
        omega

/-- A block that the stream cannot fill takes all of its bytes, and tells how it ends. -/
theorem fillFrom_of_lt (buffer : Array UInt8) {room : Nat} {stream : ByteStream}
    (few : stream.readAll.1.length < room) :
    (fillFrom buffer room stream).1 = buffer ++ stream.readAll.1 ∧
      (fillFrom buffer room stream).2.1 = .ofEnd stream.readAll.2 := by
  induction stream generalizing buffer room with
  | nil =>
    have no_room : room ≠ 0 := by omega
    simp [fillFrom, readAll, no_room, BlockEnd.ofEnd]
  | cons event rest ih =>
    have no_room : room ≠ 0 := by omega
    cases event with
    | bytes data =>
      rw [readAll_bytes] at few ⊢
      simp only [List.length_append] at few
      have short : data.length ≤ room := by omega
      have few : (readAll rest).1.length < room - data.length := by omega
      obtain ⟨filled, ending⟩ := ih (buffer ++ data) few
      simp [fillFrom, no_room, moveOnto_eq, List.drop_eq_nil_of_le short,
        List.take_of_length_le short, filled, ending, append_list_append]
    | failure cause =>
      cases again : cause.isInterruption with
      | true =>
        rw [readAll_interruption again] at few ⊢
        simpa [fillFrom, no_room, again] using ih buffer few
      | false => simp [fillFrom, no_room, again, readAll_failure again, BlockEnd.ofEnd]

end LogQuery.ByteStream

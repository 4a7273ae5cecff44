import LogQuery.ByteStream.Basic

/-! Filling a buffer from a stream, block by block. -/

set_option autoImplicit false

namespace LogQuery.ByteStream

inductive BlockEnd where
  | full
  | exhausted
  | failed (cause : Failure)
  deriving DecidableEq, Repr

def moveOnto (buffer : Array UInt8) (room : Nat) :
    List UInt8 → Array UInt8 × Nat × List UInt8
  | [] => (buffer, room, [])
  | byte :: data =>
    match room with
    | 0 => (buffer, 0, byte :: data)
    | room + 1 => moveOnto (buffer.push byte) room data

/-- A block of `room` bytes read onto the end of a buffer, in as many reads as that takes;
interrupted reads are tried again. -/
def fillFrom (buffer : Array UInt8) (room : Nat) :
    ByteStream → Array UInt8 × BlockEnd × ByteStream
  | [] => (buffer, if room == 0 then .full else .exhausted, [])
  | event :: rest =>
    if room == 0 then (buffer, .full, event :: rest)
    else match event with
      | .bytes data =>
        match moveOnto buffer room data with
        | (buffer, room, []) => fillFrom buffer room rest
        | (buffer, _, left) => (buffer, .full, .bytes left :: rest)
      | .failure cause =>
        if cause.isInterruption then fillFrom buffer room rest
        else (buffer, .failed cause, rest)

theorem moveOnto_eq (buffer : Array UInt8) (room : Nat) (data : List UInt8) :
    moveOnto buffer room data = (buffer ++ data.take room, room - data.length, data.drop room) := by
  induction data generalizing buffer room with
  | nil => simp [moveOnto]
  | cons byte data ih =>
    cases room with
    | zero => simp [moveOnto]
    | succ room =>
      simp only [moveOnto, ih, List.take_succ_cons, List.drop_succ_cons, List.length_cons]
      simp

theorem size_append_list (buffer : Array UInt8) (data : List UInt8) :
    (buffer ++ data).size = buffer.size + data.length := by
  rw [← Array.length_toList, Array.toList_appendList, List.length_append, Array.length_toList]

/-- What leaves the stream comes into the buffer or is an item of the stream that is done with; a
full block takes at least its own number of bytes. -/
theorem size_fillFrom (buffer : Array UInt8) (room : Nat) (stream : ByteStream) :
    (fillFrom buffer room stream).2.2.size + (fillFrom buffer room stream).1.size
        ≤ stream.size + buffer.size ∧
      ((fillFrom buffer room stream).2.1 = .full →
        (fillFrom buffer room stream).1.size = buffer.size + room) := by
  induction stream generalizing buffer room with
  | nil =>
    simp only [fillFrom]
    refine ⟨Nat.le_refl _, ?_⟩
    split <;> simp_all
  | cons event rest ih =>
    by_cases none_left : room = 0
    · simp [fillFrom, none_left]
    cases event with
    | bytes data =>
      rcases Nat.lt_or_ge room data.length with long | short
      · obtain ⟨byte, left, eq⟩ : ∃ byte left, data.drop room = byte :: left := by
          cases eq : data.drop room with
          | nil => simp at eq; omega
          | cons byte left => exact ⟨byte, left, rfl⟩
        have lengths := congrArg List.length eq
        simp only [List.length_drop, List.length_cons] at lengths
        simp [fillFrom, none_left, moveOnto_eq, eq, ByteStream.size, size_append_list]
        omega
      · have := ih (buffer ++ data.take room) (room - data.length)
        have taken : (data.take room).length = data.length := by simp; omega
        simp only [size_append_list, taken] at this
        simp [fillFrom, none_left, moveOnto_eq, List.drop_eq_nil_of_le short, ByteStream.size]
        exact ⟨by omega, fun full => by have := this.2 full; omega⟩
    | failure cause =>
      have := ih buffer room
      by_cases again : cause.isInterruption
      · simp [fillFrom, none_left, again, ByteStream.size]
        exact ⟨by omega, this.2⟩
      · simp [fillFrom, none_left, again, ByteStream.size]

end LogQuery.ByteStream

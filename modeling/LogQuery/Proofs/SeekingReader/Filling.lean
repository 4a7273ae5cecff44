import LogQuery.Proofs.ByteStream.Filling
import LogQuery.SeekingReader

/-! What a reader takes from its stream block by block, said of the bytes that the stream still has.
How the stream cuts these into reads does not matter. -/

set_option autoImplicit false

namespace LogQuery.SeekingReader

open ByteStream

def unread (reader : SeekingReader) : List UInt8 :=
  if reader.isAtEnd then [] else reader.stream.readAll.1

def ending (reader : SeekingReader) : Option Failure :=
  if reader.isAtEnd then reader.failure else reader.stream.readAll.2

theorem unread_of_atEnd {reader : SeekingReader} (atEnd : reader.isAtEnd = true) :
    reader.unread = [] := by
  simp [unread, atEnd]

theorem not_atEnd_iff {reader : SeekingReader} :
    reader.isAtEnd = false ↔ reader.isExhausted = false ∧ reader.failure = none := by
  simp [isAtEnd]

/-- What reading a block makes of a reader whose stream is not at its end. -/
structure Fills (before after : SeekingReader) : Prop where
  same : after = { before with
    buffer := after.buffer, stream := after.stream, bytesRead := after.bytesRead,
    isExhausted := after.isExhausted, failure := after.failure }
  buffer : after.buffer = before.buffer ++ before.unread.take before.blockSize
  unread : after.unread = before.unread.drop before.blockSize
  bytesRead : after.bytesRead = before.bytesRead + min before.blockSize before.unread.length
  isExhausted : after.isExhausted =
    (decide (before.unread.length < before.blockSize) && before.ending.isNone)
  failure : after.failure =
    if before.unread.length < before.blockSize then before.ending else none
  ending : after.ending = before.ending

theorem fill_of_le {reader : SeekingReader}
    (enough : reader.blockSize ≤ reader.stream.readAll.1.length) :
    ∃ stream : ByteStream,
      stream.readAll =
        (reader.stream.readAll.1.drop reader.blockSize, reader.stream.readAll.2) ∧
      reader.fill = { reader with
        stream
        buffer := reader.buffer ++ reader.stream.readAll.1.take reader.blockSize
        bytesRead := reader.bytesRead + reader.blockSize } := by
  obtain ⟨filled, full, left⟩ := fillFrom_of_le reader.buffer enough
  refine ⟨_, left, ?_⟩
  rcases eq : fillFrom reader.buffer reader.blockSize reader.stream with ⟨buffer, ending, stream⟩
  rw [eq] at filled full
  simp_all [fill, size_append_list]

theorem fill_of_lt {reader : SeekingReader}
    (few : reader.stream.readAll.1.length < reader.blockSize) :
    ∃ stream : ByteStream, reader.fill = { reader with
      stream
      buffer := reader.buffer ++ reader.stream.readAll.1
      bytesRead := reader.bytesRead + reader.stream.readAll.1.length
      isExhausted := reader.isExhausted || reader.stream.readAll.2.isNone
      failure := reader.stream.readAll.2.or reader.failure } := by
  obtain ⟨filled, ended⟩ := fillFrom_of_lt reader.buffer few
  rcases eq : fillFrom reader.buffer reader.blockSize reader.stream with ⟨buffer, ending, stream⟩
  rw [eq] at filled ended
  refine ⟨stream, ?_⟩
  cases failure : reader.stream.readAll.2 <;>
    simp_all [fill, BlockEnd.ofEnd, size_append_list]

theorem fill_spec {reader : SeekingReader} (goesOn : reader.isAtEnd = false) :
    Fills reader reader.fill := by
  obtain ⟨notExhausted, noFailure⟩ := not_atEnd_iff.1 goesOn
  have bytes : reader.unread = reader.stream.readAll.1 := by simp [unread, goesOn]
  have failure : reader.ending = reader.stream.readAll.2 := by simp [ending, goesOn]
  rcases Nat.lt_or_ge reader.unread.length reader.blockSize with few | enough
  · obtain ⟨stream, filled⟩ := fill_of_lt (bytes ▸ few)
    have none_left : reader.unread.drop reader.blockSize = [] :=
      List.drop_eq_nil_of_le (Nat.le_of_lt few)
    rw [filled]
    constructor
    case unread =>
      -- the reader is at its end now, whether a failure ended the stream or not
      rw [none_left]
      cases reader.stream.readAll.2 <;> simp [unread, isAtEnd]
    all_goals
      cases ended : reader.stream.readAll.2 <;>
        simp_all [ending, isAtEnd, List.take_of_length_le, Nat.le_of_lt]
  · obtain ⟨stream, left, filled⟩ := fill_of_le (bytes ▸ enough)
    have longer : ¬ reader.unread.length < reader.blockSize := by omega
    rw [bytes] at longer
    rw [filled]
    constructor <;> simp_all [unread, ending, isAtEnd, -Nat.not_lt]

end LogQuery.SeekingReader

import LogQuery.ByteStream.Filling
import LogQuery.ByteStream.LastDate
import LogQuery.Time.Window

/-! Reading only the part of a stream that covers a window of time.

Blocks are read and dropped until one holds a complete line whose date reaches the window; from
there on bytes are served up to the first line dated after the window. The last date of a block or
region stands for all of its lines, since lines come in order of their dates.
-/

set_option autoImplicit false

namespace LogQuery

structure SeekingReader where
  stream : ByteStream
  window : Time.Window
  dateOf : List UInt8 → Option Time.DateTime
  blockSize : Nat
  blockSize_pos : 0 < blockSize
  buffer : Array UInt8 := #[]
  served : Nat := 0
  /-- as many bytes of the buffer stand in lines that are not after the window -/
  cleared : Nat := 0
  hasStarted : Bool := false
  lateFound : Bool := false
  isExhausted : Bool := false
  failure : Option Failure := none
  bytesRead : Nat := 0
  bytesSkipped : Nat := 0

namespace SeekingReader

open ByteStream

def defaultBlockSize : Nat := 1048576

def ofStream (stream : ByteStream) (window : Time.Window)
    (dateOf : List UInt8 → Option Time.DateTime) (blockSize : Nat) : SeekingReader :=
  { stream, window, dateOf, blockSize := max blockSize 1, blockSize_pos := by omega }

def isAtEnd (reader : SeekingReader) : Bool := reader.isExhausted || reader.failure.isSome

def fill (reader : SeekingReader) : SeekingReader :=
  let before := reader.buffer.size
  match fillFrom reader.buffer reader.blockSize reader.stream with
  | (buffer, ending, stream) =>
    let bytesRead := reader.bytesRead + (buffer.size - before)
    match ending with
    | .full => { reader with buffer, stream, bytesRead }
    | .exhausted => { reader with buffer, stream, bytesRead, isExhausted := true }
    | .failed cause => { reader with buffer, stream, bytesRead, failure := some cause }

/-- Where the last complete line behind `start` ends; `start` itself if none is complete. There is
no newline between `start` and `scanned`. A line that the end of the stream cuts off is complete. -/
def completeEnd (reader : SeekingReader) (start scanned : Nat) : Nat :=
  if reader.isAtEnd then reader.buffer.size
  else
    let found := lineStart reader.buffer scanned reader.buffer.size
    if scanned < found then found else start

def lineEnd (buffer : Array UInt8) (stop place : Nat) : Nat :=
  if place < stop then
    if buffer[place]? = some newline then place + 1 else lineEnd buffer stop (place + 1)
  else place
termination_by stop - place

theorem lt_lineEnd {buffer : Array UInt8} {stop place : Nat} (h : place < stop) :
    place < lineEnd buffer stop place := by
  have le (place : Nat) : place ≤ lineEnd buffer stop place := by
    fun_induction lineEnd buffer stop place <;> omega
  rw [lineEnd, if_pos h]
  split
  · omega
  · have := le (place + 1); omega

/-- How far the lines from `place` to `stop` are not dated after `finish`, and whether one is. -/
def clearLines (dateOf : List UInt8 → Option Time.DateTime) (finish : Time.DateTime)
    (buffer : Array UInt8) (stop place : Nat) : Nat × Bool :=
  if _h : place < stop then
    let next := lineEnd buffer stop place
    if (dateOf (buffer.extract place next).toList).any (finish < ·) then (place, true)
    else clearLines dateOf finish buffer stop next
  else (place, false)
termination_by stop - place
decreasing_by exact Nat.sub_lt_sub_left _h (lt_lineEnd _h)

def clear (reader : SeekingReader) (scanned : Nat) : SeekingReader :=
  if reader.lateFound then reader
  else
    let complete := reader.completeEnd reader.cleared scanned
    if complete == reader.cleared then reader
    else if (lastDate reader.dateOf reader.buffer reader.cleared complete).any
        (reader.window.finish < ·) then
      let (cleared, lateFound) :=
        clearLines reader.dateOf reader.window.finish reader.buffer complete reader.cleared
      { reader with cleared, lateFound }
    else { reader with cleared := complete }

def compact (reader : SeekingReader) : SeekingReader :=
  { reader with
    buffer := reader.buffer.extract reader.served reader.buffer.size
    cleared := reader.cleared - reader.served
    served := 0 }

def skip (reader : SeekingReader) (count : Nat) : SeekingReader :=
  { reader with
    buffer := reader.buffer.extract count reader.buffer.size
    bytesSkipped := reader.bytesSkipped + count }

theorem fill_atEnd_or_smaller (reader : SeekingReader) :
    reader.fill.isAtEnd = true ∨ reader.fill.stream.size < reader.stream.size := by
  have sizes := size_fillFrom reader.buffer reader.blockSize reader.stream
  have pos := reader.blockSize_pos
  unfold fill
  rcases eq : fillFrom reader.buffer reader.blockSize reader.stream with ⟨buffer, ending, stream⟩
  rw [eq] at sizes
  cases ending with
  | full =>
    right
    have := sizes.2 rfl
    simp only at *
    omega
  | exhausted => left; simp [isAtEnd]
  | failed cause => left; simp [isAtEnd]

/-- Drops blocks until one reaches the window, or the stream is at its end. What is kept of a
dropped block is the line that it does not complete. -/
def seek (reader : SeekingReader) : SeekingReader :=
  let scanned := reader.buffer.size
  let filled := reader.fill
  let complete := filled.completeEnd 0 scanned
  if (lastDate filled.dateOf filled.buffer 0 complete).any (filled.window.start ≤ ·) then filled
  else if _h : filled.isAtEnd then filled.skip filled.buffer.size
  else seek (filled.skip complete)
termination_by reader.stream.size
decreasing_by
  have := (fill_atEnd_or_smaller reader).resolve_left _h
  exact this

def start (reader : SeekingReader) : SeekingReader :=
  if reader.hasStarted then reader
  else clear { reader.seek with hasStarted := true, served := 0, cleared := 0 } 0

def advance (reader : SeekingReader) : SeekingReader :=
  let compacted := reader.compact
  compacted.fill.clear compacted.buffer.size

/-- What is still to be done where nothing is cleared: blocks may come as long as the stream is not
at its end. -/
def ahead (reader : SeekingReader) : Nat := if reader.isAtEnd then 0 else reader.stream.size + 1

theorem ahead_clear (reader : SeekingReader) (scanned : Nat) :
    (reader.clear scanned).ahead = reader.ahead := by
  unfold clear
  dsimp only
  repeat' split
  all_goals rfl

theorem ahead_advance {reader : SeekingReader} (h : reader.isAtEnd = false) :
    reader.advance.ahead < reader.ahead := by
  simp only [advance, ahead_clear]
  have := fill_atEnd_or_smaller reader.compact
  have same : reader.compact.stream = reader.stream := rfl
  unfold ahead
  rw [h]
  rcases this with atEnd | smaller
  · simp [atEnd]
  · rw [same] at smaller
    simp only [Bool.false_eq_true, if_false]
    split <;> omega

def serve (n : Nat) (reader : SeekingReader) : Except Failure (List UInt8) × SeekingReader :=
  if reader.served < reader.cleared then
    let stop := min (reader.served + n) reader.cleared
    (.ok (reader.buffer.extract reader.served stop).toList, { reader with served := stop })
  else if reader.lateFound then (.ok [], reader)
  else if _h : reader.isAtEnd then
    match reader.failure with
    | some cause => (.error cause, { reader with failure := none, isExhausted := true })
    | none => (.ok [], reader)
  else serve n reader.advance
termination_by reader.ahead
decreasing_by exact ahead_advance (by simpa using _h)

/-- One read of at most `n` bytes; none at all are read at the end. A failure of the stream is told
once, after all that was read before it. -/
def read (n : Nat) (reader : SeekingReader) : Except Failure (List UInt8) × SeekingReader :=
  if n == 0 then (.ok [], reader) else reader.start.serve n

def drainFrom (n : Nat) (reader : SeekingReader) (drained : Array UInt8) :
    (fuel : Nat) → Array UInt8 × Option Failure × SeekingReader
  | 0 => (drained, none, reader)
  | fuel + 1 =>
    match reader.read n with
    | (.ok [], reader) => (drained, none, reader)
    | (.ok data, reader) => drainFrom n reader (drained ++ data) fuel
    | (.error cause, reader) => (drained, some cause, reader)

def readsAhead (reader : SeekingReader) : Nat := reader.stream.size + reader.buffer.size + 1

def drain (n : Nat) (reader : SeekingReader) : List UInt8 × Option Failure × SeekingReader :=
  let (drained, failure, reader) := drainFrom n reader #[] reader.readsAhead
  (drained.toList, failure, reader)

end SeekingReader

end LogQuery

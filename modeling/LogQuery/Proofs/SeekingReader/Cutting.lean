import LogQuery.Proofs.SeekingReader.Window

/-! Streams that bring the same bytes and end alike, cut into reads in different ways.

Readers of two such streams take the same blocks and decide alike at each block, so that they go
through the same states but for the streams themselves.
-/

set_option autoImplicit false

namespace LogQuery.SeekingReader

open ByteStream

/-- Two readers that differ in their streams only, which bring the same bytes and end alike. -/
structure Agrees (first second : SeekingReader) : Prop where
  same : second = { first with stream := second.stream }
  unread : second.unread = first.unread
  ending : second.ending = first.ending

section Steps

variable {first second : SeekingReader}

theorem Agrees.isAtEnd (agrees : Agrees first second) : second.isAtEnd = first.isAtEnd := by
  rw [agrees.same]
  rfl

/-- What does not look at the stream, or at how it ended, makes readers that agree of those that
do. -/
theorem Agrees.map (agrees : Agrees first second) (change : SeekingReader → SeekingReader)
    (commutes : ∀ reader stream, change { reader with stream } = { change reader with stream })
    (frame : ∀ reader, (change reader).isExhausted = reader.isExhausted ∧
      (change reader).failure = reader.failure) : Agrees (change first) (change second) := by
  have stream (reader : SeekingReader) : (change reader).stream = reader.stream := by
    have kept := commutes reader reader.stream
    rw [kept]
  have atEnd (reader : SeekingReader) : (change reader).isAtEnd = reader.isAtEnd := by
    rw [SeekingReader.isAtEnd, (frame reader).1, (frame reader).2, SeekingReader.isAtEnd]
  have unread (reader : SeekingReader) : (change reader).unread = reader.unread := by
    rw [SeekingReader.unread, atEnd, stream, SeekingReader.unread]
  have ending (reader : SeekingReader) : (change reader).ending = reader.ending := by
    rw [SeekingReader.ending, atEnd, stream, (frame reader).2, SeekingReader.ending]
  refine ⟨?_, ?_, ?_⟩
  · rw [stream, ← commutes, ← agrees.same]
  · rw [unread, unread, agrees.unread]
  · rw [ending, ending, agrees.ending]

theorem clear_stream (reader : SeekingReader) (stream : ByteStream) (scanned : Nat) :
    clear { reader with stream } scanned = { reader.clear scanned with stream } := by
  have complete : completeEnd { reader with stream } reader.cleared scanned =
      reader.completeEnd reader.cleared scanned := rfl
  unfold clear
  dsimp only
  rw [complete]
  repeat' split
  all_goals rfl

theorem clear_ending (reader : SeekingReader) (scanned : Nat) :
    (reader.clear scanned).isExhausted = reader.isExhausted ∧
      (reader.clear scanned).failure = reader.failure := by
  unfold clear
  dsimp only
  repeat' split
  all_goals exact ⟨rfl, rfl⟩

theorem Agrees.clear (agrees : Agrees first second) (scanned : Nat) :
    Agrees (first.clear scanned) (second.clear scanned) :=
  agrees.map (·.clear scanned) (fun reader stream => clear_stream reader stream scanned)
    fun reader => clear_ending reader scanned

theorem Agrees.skip (agrees : Agrees first second) (count : Nat) :
    Agrees (first.skip count) (second.skip count) :=
  agrees.map (·.skip count) (fun _ _ => rfl) fun _ => ⟨rfl, rfl⟩

theorem Agrees.compact (agrees : Agrees first second) : Agrees first.compact second.compact :=
  agrees.map (·.compact) (fun _ _ => rfl) fun _ => ⟨rfl, rfl⟩

theorem Agrees.settle (agrees : Agrees first second) : Agrees first.settle second.settle :=
  agrees.map (·.settle) (fun _ _ => rfl) fun _ => ⟨rfl, rfl⟩

theorem Agrees.fill (agrees : Agrees first second) (goesOn : first.isAtEnd = false) :
    Agrees first.fill second.fill := by
  have one := fill_spec goesOn
  have other := fill_spec (agrees.isAtEnd.trans goesOn)
  have blockSize : second.blockSize = first.blockSize := by rw [agrees.same]
  have buffer : second.buffer = first.buffer := by rw [agrees.same]
  have bytesRead : second.bytesRead = first.bytesRead := by rw [agrees.same]
  refine ⟨?_, ?_, ?_⟩
  · -- each field of a filled reader is determined by the bytes and how they end
    have rest : second.fill = { first with
        buffer := second.fill.buffer, stream := second.fill.stream,
        bytesRead := second.fill.bytesRead, isExhausted := second.fill.isExhausted,
        failure := second.fill.failure } := by
      refine other.same.trans ?_
      rw [agrees.same]
    rw [rest, other.buffer, other.bytesRead, other.isExhausted, other.failure, agrees.unread,
      agrees.ending, blockSize, buffer, bytesRead, ← one.buffer, ← one.bytesRead,
      ← one.isExhausted, ← one.failure, one.same]
  · rw [other.unread, one.unread, agrees.unread, blockSize]
  · rw [other.ending, one.ending, agrees.ending]

theorem Agrees.advance (agrees : Agrees first second) (goesOn : first.isAtEnd = false) :
    Agrees first.advance second.advance := by
  have size : second.compact.buffer.size = first.compact.buffer.size := by
    rw [agrees.compact.same]
  rw [SeekingReader.advance, SeekingReader.advance, size]
  exact (agrees.compact.fill goesOn).clear _

theorem Agrees.complete (agrees : Agrees first second) (goesOn : first.isAtEnd = false) :
    second.fill.completeEnd 0 second.buffer.size = first.fill.completeEnd 0 first.buffer.size := by
  rw [(agrees.fill goesOn).same, agrees.same]
  rfl

def reaches (reader : SeekingReader) : Bool :=
  (lastDate reader.fill.dateOf reader.fill.buffer 0
    (reader.fill.completeEnd 0 reader.buffer.size)).any (reader.fill.window.start ≤ ·)

theorem seek_eq (reader : SeekingReader) :
    reader.seek =
      if reader.reaches then reader.fill
      else if reader.fill.isAtEnd then reader.fill.skip reader.fill.buffer.size
      else (reader.fill.skip (reader.fill.completeEnd 0 reader.buffer.size)).seek := by
  rw [SeekingReader.seek]
  simp only [dite_eq_ite]
  rfl

theorem Agrees.reaches (agrees : Agrees first second) (goesOn : first.isAtEnd = false) :
    second.reaches = first.reaches := by
  rw [SeekingReader.reaches, agrees.complete goesOn, (agrees.fill goesOn).same]
  rfl

theorem Agrees.seek {first second : SeekingReader} (agrees : Agrees first second)
    (goesOn : first.isAtEnd = false) : Agrees first.seek second.seek := by
  have next := agrees.fill goesOn
  rw [seek_eq first, seek_eq second, agrees.reaches goesOn, next.isAtEnd, agrees.complete goesOn]
  -- the three ways on: the block is kept, or is the last one, or is dropped
  by_cases reaches : first.reaches = true
  · rw [if_pos reaches, if_pos reaches]
    exact next
  rw [if_neg reaches, if_neg reaches]
  by_cases atEnd : first.fill.isAtEnd = true
  · have size : second.fill.buffer.size = first.fill.buffer.size := by rw [next.same]
    rw [if_pos atEnd, if_pos atEnd, size]
    exact next.skip _
  · rw [if_neg atEnd, if_neg atEnd]
    exact (next.skip _).seek (Bool.eq_false_iff.2 atEnd)
termination_by first.stream.size
decreasing_by exact (fill_atEnd_or_smaller first).resolve_left atEnd

theorem Agrees.start (agrees : Agrees first second) (goesOn : first.isAtEnd = false) :
    Agrees first.start second.start := by
  have started : second.hasStarted = first.hasStarted := by rw [agrees.same]
  rw [SeekingReader.start, SeekingReader.start, started]
  split
  · exact agrees
  · refine Agrees.clear ?_ 0
    exact (agrees.seek goesOn).map (fun reader =>
      { reader with hasStarted := true, served := 0, cleared := 0 }) (fun _ _ => rfl)
      fun _ => ⟨rfl, rfl⟩

theorem Agrees.flow (agrees : Agrees first second) :
    second.flow.1 = first.flow.1 ∧ Agrees first.flow.2 second.flow.2 := by
  have due : second.due = first.due := by rw [agrees.same]; rfl
  have late : second.lateFound = first.lateFound := by rw [agrees.same]
  fun_induction SeekingReader.flow first generalizing second with
  | case1 first found =>
    rw [flow_ended (.inl (late.trans found)), due]
    exact ⟨rfl, agrees.settle⟩
  | case2 first none_late atEnd =>
    rw [flow_ended (.inr (agrees.isAtEnd.trans atEnd)), due]
    exact ⟨rfl, agrees.settle⟩
  | case3 first none_late goesOn rest final next ih =>
    have goesOn := Bool.eq_false_iff.2 goesOn
    rw [flow_goesOn (late.trans (Bool.eq_false_iff.2 none_late)) (agrees.isAtEnd.trans goesOn)]
    have later := agrees.settle.advance goesOn
    obtain ⟨bytes, final⟩ := ih later (by rw [later.same]; rfl) (by rw [later.same])
    rw [next] at bytes final
    exact ⟨by rw [bytes, due], final⟩

theorem Agrees.tellEnd (agrees : Agrees first second) : second.tellEnd.1 = first.tellEnd.1 := by
  rw [agrees.same, SeekingReader.tellEnd, SeekingReader.tellEnd]
  cases first.failure with
  | none => rfl
  | some cause => cases first.lateFound <;> rfl

end Steps

/-- What a reader serves depends on the bytes of its stream and on how they end, and not on how the
stream or the caller cuts them into reads. -/
theorem exhaust_cut {first second : ByteStream} (same : first.readAll = second.readAll)
    (window : Time.Window) (dateOf : List UInt8 → Option Time.DateTime) (blockSize : Nat)
    {sizes sizes' : Nat → Nat} (positive : ∀ i, 0 < sizes i) (positive' : ∀ i, 0 < sizes' i) :
    let one := (ofStream first window dateOf blockSize).exhaust sizes
    let other := (ofStream second window dateOf blockSize).exhaust sizes'
    other.1 = one.1 ∧ other.2.1 = one.2.1 ∧ other.2.2.bytesRead = one.2.2.bytesRead ∧
      other.2.2.bytesSkipped = one.2.2.bytesSkipped ∧
      other.2.2.lateFound = one.2.2.lateFound := by
  intro one other
  have fresh := isFresh_ofStream first window dateOf blockSize
  have agrees : Agrees (ofStream first window dateOf blockSize)
      (ofStream second window dateOf blockSize) := by
    refine ⟨rfl, ?_, ?_⟩
    · rw [unread_ofStream, unread_ofStream, same]
    · rw [ending_ofStream, ending_ofStream, same]
  obtain ⟨bytes, final⟩ := (agrees.start fresh.atEnd).flow
  have oneEq : one = _ := exhaust_eq (.fresh fresh) positive
  have otherEq : other = _ := exhaust_eq (.fresh (isFresh_ofStream ..)) positive'
  rw [oneEq, otherEq]
  refine ⟨bytes, final.tellEnd, ?_⟩
  simp only [tellEnd_frame]
  rw [final.same]
  exact ⟨rfl, rfl, rfl⟩

theorem exhaust_threeDays_cut :
    let one := (ofStream threeDays secondDay inUtc.ofBytes 16).exhaust fun _ => 7
    let other :=
      (ofStream (.failure .interruption :: threeDays) secondDay inUtc.ofBytes 16).exhaust fun _ => 1
    other.1 = one.1 ∧ other.2.1 = one.2.1 ∧ other.2.2.bytesRead = one.2.2.bytesRead ∧
      other.2.2.bytesSkipped = one.2.2.bytesSkipped ∧
      other.2.2.lateFound = one.2.2.lateFound :=
  exhaust_cut (by rfl) secondDay inUtc.ofBytes 16 (fun _ => by decide) fun _ => by decide

end LogQuery.SeekingReader

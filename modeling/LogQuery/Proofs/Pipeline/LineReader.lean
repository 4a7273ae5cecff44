import LogQuery.Proofs.Pipeline.FullScan
import LogQuery.Proofs.Pipeline.Network.Outlook

/-! Lines read one by one.

Intake asks for one line at a time and reads no further than it must for that. What it gets in the
end is what a reading of the whole stream gives at once.
-/

set_option autoImplicit false

namespace LogQuery.Pipeline

open ByteStream
open SeekingReader (Reading ofStream isFresh_ofStream drain_eq flow_read read_failed)

structure LineReader where
  reader : SeekingReader
  buffered : List UInt8 := []

namespace LineReader

/-- The bytes of `line` and then those up to the next newline, which is one of them. At the end
there may be none. If a read fails, what was read of the line is lost. -/
def readLine (line : List UInt8) (source : LineReader) : Option (List UInt8 × LineReader) :=
  let front := source.buffered.takeWhile (· != newline)
  match source.buffered.dropWhile (· != newline) with
  | _ :: rest => some (line ++ front ++ [newline], { source with buffered := rest })
  | [] =>
    match _read : source.reader.read readSize with
    | (.ok [], reader) => some (line ++ front, ⟨reader, []⟩)
    | (.ok (byte :: data), reader) => readLine (line ++ front) ⟨reader, byte :: data⟩
    | (.error _, _) => none
termination_by source.reader.start.flow.1.length
decreasing_by
  rw [flow_read _read, List.length_append, List.length_cons]
  omega

def next? (source : LineReader) : Option (String × LineReader) :=
  match source.readLine [] with
  | some ([], _) => none
  | some (line, source) => some (lineText (content line), source)
  | none => none

def remaining (source : LineReader) : List UInt8 := source.buffered ++ source.reader.start.flow.1

def ending (source : LineReader) : Option Failure := source.reader.start.flow.2.tellEnd.1

/-- Has the reader behind the buffer come from a fresh one by reads? -/
def IsValid (source : LineReader) : Prop := ∃ origin given, Reading origin given source.reader

/-! ### The first newline -/

theorem notMem_takeWhile (bytes : List UInt8) : newline ∉ bytes.takeWhile (· != newline) := by
  intro member
  have passes := List.mem_takeWhile_imp member
  simp at passes

theorem cut_newline {bytes rest : List UInt8} {byte : UInt8}
    (cut : bytes.dropWhile (· != newline) = byte :: rest) :
    bytes = bytes.takeWhile (· != newline) ++ newline :: rest := by
  have first := List.head?_dropWhile_not (· != newline) bytes
  rw [cut] at first
  have isNewline : byte = newline := by simpa using first
  subst isNewline
  rw [← cut, List.takeWhile_append_dropWhile]

theorem uncut {bytes : List UInt8} (cut : bytes.dropWhile (· != newline) = []) :
    bytes.takeWhile (· != newline) = bytes := by
  have whole := List.takeWhile_append_dropWhile (p := (· != newline)) (l := bytes)
  rwa [cut, List.append_nil] at whole

theorem first_newline {front front' rest rest' : List UInt8} (unended : newline ∉ front)
    (unended' : newline ∉ front') (same : front ++ newline :: rest = front' ++ newline :: rest') :
    front = front' ∧ rest = rest' := by
  have lines := congrArg segments same
  rw [segments_line_append unended, segments_line_append unended', List.cons_eq_cons] at lines
  have front := List.append_cancel_right lines.1
  subst front
  exact ⟨rfl, (List.cons_eq_cons.1 (List.append_cancel_left same)).2⟩

theorem newline_behind {held more front rest : List UInt8} (unended : newline ∉ held)
    (same : held ++ more = front ++ newline :: rest) :
    ∃ front', front = held ++ front' ∧ more = front' ++ newline :: rest := by
  rcases List.append_eq_append_iff.1 same with ⟨front', rfl, further⟩ | ⟨middle, rfl, further⟩
  · exact ⟨front', rfl, further⟩
  · cases middle with
    | nil => exact ⟨[], by simp, further.symm⟩
    | cons byte middle =>
      rw [List.cons_append, List.cons_eq_cons] at further
      rw [← further.1] at unended
      simp at unended

/-! ### One line -/

theorem IsValid.read {source : LineReader} (valid : source.IsValid)
    {result : Except Failure (List UInt8)} {reader : SeekingReader}
    (read : source.reader.read readSize = (result, reader)) (buffered : List UInt8) :
    IsValid ⟨reader, buffered⟩ := by
  obtain ⟨origin, given, reading⟩ := valid
  have next := (reading.read readSize).1
  rw [read] at next
  exact ⟨origin, _, next⟩

theorem unended_of_nothing {source : LineReader}
    (cut : source.buffered.dropWhile (· != newline) = [])
    (nothing : source.reader.start.flow.1 = []) : newline ∉ source.remaining := by
  rw [remaining, nothing, List.append_nil, ← uncut cut]
  exact notMem_takeWhile source.buffered

theorem readLine_line {source : LineReader} (valid : source.IsValid) {front rest : List UInt8}
    (unended : newline ∉ front) (bytes : source.remaining = front ++ newline :: rest)
    (line : List UInt8) :
    ∃ after, source.readLine line = some (line ++ front ++ [newline], after) ∧
      after.remaining = rest ∧ after.ending = source.ending ∧ after.IsValid := by
  have positive : 0 < readSize := by decide
  -- the recursion reads one more piece into the buffer
  fun_induction readLine line source generalizing front with
  | case1 line source held byte rest' cut =>
    rw [remaining, cut_newline cut, List.append_assoc, List.cons_append] at bytes
    obtain ⟨rfl, rfl⟩ := first_newline (notMem_takeWhile source.buffered) unended bytes
    exact ⟨_, rfl, rfl, rfl, valid⟩
  | case2 line source held cut reader read =>
    obtain ⟨origin, given, reading⟩ := valid
    obtain ⟨flow, _⟩ := reading.read_none positive read
    exact absurd (by simp [bytes]) (unended_of_nothing cut (by rw [flow]))
  | case3 line source held cut byte data reader read ih =>
    -- the newline is not among the bytes that are held, so it comes with the next piece or later
    have flow := flow_read read
    rw [remaining, flow, ← uncut cut] at bytes
    obtain ⟨front', rfl, further⟩ := newline_behind (notMem_takeWhile source.buffered) bytes
    rw [List.mem_append, not_or] at unended
    have later := ih (valid.read read _) unended.2 further
    obtain ⟨after, result, remaining, ending, afterValid⟩ := later
    refine ⟨after, ?_, remaining, ?_, afterValid⟩
    · rw [result]
      simp [held]
    · rw [ending, LineReader.ending, LineReader.ending, flow]
  | case4 line source cut cause reader read =>
    obtain ⟨empty, _⟩ := read_failed read
    exact absurd (by simp [bytes]) (unended_of_nothing cut empty)

theorem readLine_end {source : LineReader} (valid : source.IsValid)
    (unended : newline ∉ source.remaining) (line : List UInt8) :
    (source.ending = none →
      ∃ after, source.readLine line = some (line ++ source.remaining, after) ∧
        after.remaining = [] ∧ after.ending = none ∧ after.IsValid) ∧
    (source.ending.isSome = true → source.readLine line = none) := by
  have positive : 0 < readSize := by decide
  fun_induction readLine line source with
  | case1 line source held byte rest' cut =>
    rw [remaining, cut_newline cut] at unended
    simp at unended
  | case2 line source held cut reader read =>
    have next := valid.read read []
    obtain ⟨origin, given, reading⟩ := valid
    obtain ⟨flow, told, final⟩ := reading.read_none positive read
    -- the end comes with the read that brings nothing
    have held_eq : held = source.buffered := uncut cut
    have none_told : source.ending = none := by rw [ending, flow, told]
    refine ⟨fun _ => ⟨_, ?_, ?_, ?_, next⟩, fun failed => by simp [none_told] at failed⟩
    · rw [remaining, flow, held_eq, List.append_nil]
    · rw [remaining, final]
      rfl
    · rw [ending, final, told]
  | case3 line source held cut byte data reader read ih =>
    have flow := flow_read read
    have held_eq : held = source.buffered := uncut cut
    have same : source.remaining =
        held ++ remaining { reader, buffered := byte :: data } := by
      rw [remaining, flow, held_eq]
      rfl
    have sameEnding : source.ending = ending { reader, buffered := byte :: data } := by
      rw [ending, flow]
      rfl
    rw [same, List.mem_append, not_or] at unended
    rw [same, sameEnding, ← List.append_assoc]
    exact ih (valid.read read _) unended.2
  | case4 line source cut cause reader read =>
    obtain ⟨empty, told⟩ := read_failed read
    have failed : source.ending = some cause := by rw [ending, told]
    exact ⟨fun none_told => by simp [failed] at none_told, fun _ => rfl⟩

/-! ### All lines -/

/-- The lines of some bytes. If a failure ends them, the last line is lost unless it is complete. -/
def linesUntil (bytes : List UInt8) (ending : Option Failure) : List (List UInt8) :=
  match ending with
  | none => linesOf bytes
  | some _ => (splitLines bytes).1

theorem linesUntil_line {line : List UInt8} (unended : newline ∉ line) (rest : List UInt8)
    (ending : Option Failure) :
    linesUntil (line ++ newline :: rest) ending =
      content (line ++ [newline]) :: linesUntil rest ending := by
  cases ending with
  | none => exact linesOf_line unended rest
  | some cause => rw [linesUntil, splitLines_line unended]; rfl

theorem next?_end {source : LineReader} (valid : source.IsValid)
    (none_left : source.remaining = []) : next? source = none := by
  have unended : newline ∉ source.remaining := by simp [none_left]
  obtain ⟨told, failed⟩ := readLine_end valid unended []
  rw [next?]
  cases ending : source.ending with
  | none =>
    obtain ⟨after, read, _⟩ := told ending
    rw [read, none_left]
    rfl
  | some cause => rw [failed (by rw [ending]; rfl)]

theorem yields {source : LineReader} (valid : source.IsValid) :
    Network.Yields next? source ((linesUntil source.remaining source.ending).map lineText) := by
  induction bytes : source.remaining using line_induction generalizing source with
  | nil =>
    have none_left : linesUntil [] source.ending = [] := by cases source.ending <;> rfl
    rw [none_left]
    exact next?_end valid bytes
  -- a last line without a newline is told or lost, as the bytes end
  | unended line nonempty unbroken =>
    obtain ⟨told, failed⟩ := readLine_end valid (bytes ▸ unbroken) []
    cases ending : source.ending with
    | none =>
      obtain ⟨after, read, remaining, _, afterValid⟩ := told ending
      have last : linesUntil line none = [content line] := by
        rw [linesUntil, linesOf_eq, segments_unended unbroken nonempty]
        rfl
      rw [last]
      refine ⟨after, ?_, next?_end afterValid remaining⟩
      rw [next?, read, bytes]
      cases line with
      | nil => exact absurd rfl nonempty
      | cons byte line => rfl
    | some cause =>
      have lost : linesUntil line (some cause) = [] := by
        rw [linesUntil, splitLines_unended unbroken]
      rw [lost]
      change next? source = none
      rw [next?, failed (by rw [ending]; rfl)]
  | line line rest unbroken ih =>
    obtain ⟨after, read, remaining, ending, afterValid⟩ := readLine_line valid unbroken bytes []
    rw [linesUntil_line unbroken, ← ending]
    refine ⟨after, ?_, ih afterValid remaining⟩
    rw [next?, read]
    cases line with
    | nil => rfl
    | cons byte line => rfl

end LineReader

def Query.source (query : Query) (stream : ByteStream) : LineReader :=
  ⟨ofStream stream query.window query.recognizer.ofBytes query.blockSize, []⟩

theorem Query.yields_intake (query : Query) (stream : ByteStream) :
    Network.Yields LineReader.next? (query.source stream) (query.intake stream).lines := by
  have fresh := isFresh_ofStream stream query.window query.recognizer.ofBytes query.blockSize
  have positive : ∀ _ : Nat, 0 < readSize := fun _ => by decide
  have valid : (query.source stream).IsValid := ⟨_, _, .fresh fresh⟩
  have lines : (query.intake stream).lines =
      (LineReader.linesUntil (query.source stream).remaining
        (query.source stream).ending).map lineText := by
    rw [Query.intake, drain_eq fresh, SeekingReader.exhaust_eq (.fresh fresh) positive]
    rfl
  rw [lines]
  exact LineReader.yields valid

end LogQuery.Pipeline

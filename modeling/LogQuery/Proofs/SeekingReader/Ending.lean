import LogQuery.Proofs.SeekingReader.Flow

/-! The end of reading.

A failure of the stream comes up in one read, when all that was read before it has been served.
After a read that asks for bytes and brings none there is nothing more to come: the reader does not
go back to its stream, whatever that would bring by now. -/

set_option autoImplicit false

namespace LogQuery.SeekingReader

open ByteStream

def replies (reader : SeekingReader) : (sizes : List Nat) → List (Except Failure (List UInt8))
  | [] => []
  | n :: sizes => (reader.read n).1 :: (reader.read n).2.replies sizes

def isFailure (reply : Except Failure (List UInt8)) : Bool :=
  match reply with
  | .ok _ => false
  | .error _ => true

structure IsSpent (reader : SeekingReader) : Prop where
  hasStarted : reader.hasStarted = true
  none_due : reader.cleared ≤ reader.served
  told : reader.lateFound = true ∨ (reader.isExhausted = true ∧ reader.failure = none)

variable {source reader after : SeekingReader} {given : List UInt8} {n : Nat} {cause : Failure}

/-! ### Spent readers -/

theorem IsSpent.onStream (spent : IsSpent reader) (stream : ByteStream) :
    IsSpent { reader with stream } :=
  ⟨spent.hasStarted, spent.none_due, spent.told⟩

theorem IsSpent.read (spent : IsSpent reader) (n : Nat) : reader.read n = (.ok [], reader) := by
  rcases Nat.eq_zero_or_pos n with rfl | positive
  · rfl
  rw [read_of_pos positive, start_of_started spent.hasStarted, serve,
    if_neg (Nat.not_lt.2 spent.none_due)]
  by_cases late : reader.lateFound = true
  · rw [if_pos late]
  · obtain ⟨exhausted, none_left⟩ := spent.told.resolve_left late
    have atEnd : reader.isAtEnd = true := by simp [isAtEnd, exhausted]
    rw [if_neg late, dif_pos atEnd, none_left]

theorem IsSpent.reads (spent : IsSpent reader) (sizes : List Nat) :
    reader.replies sizes = sizes.map (fun _ => .ok []) ∧ (reader.reads sizes).2 = reader := by
  induction sizes with
  | nil => exact ⟨rfl, rfl⟩
  | cons n sizes ih =>
    rw [replies, reads_cons, spent.read]
    exact ⟨congrArg _ ih.1, ih.2⟩

/-! ### Telling the end -/

theorem tellEnd_failed (told : reader.tellEnd = (some cause, after)) :
    reader.failure = some cause ∧ reader.lateFound = false ∧
      after = { reader with failure := none, isExhausted := true } := by
  unfold tellEnd at told
  split at told
  · next failure =>
    split at told
    · cases told
    · next none_late =>
      cases told
      exact ⟨failure, by simpa using none_late, rfl⟩
  · cases told

theorem HasEnded.spent (ended : HasEnded reader)
    (hasStarted : reader.tellEnd.2.hasStarted = true) : IsSpent reader.tellEnd.2 := by
  rcases told : reader.tellEnd with ⟨failure, after⟩
  rw [told] at hasStarted
  cases failure with
  | some cause =>
    obtain ⟨_, _, rfl⟩ := tellEnd_failed told
    exact ⟨hasStarted, ended.1, .inr ⟨rfl, rfl⟩⟩
  | none =>
    obtain rfl := eq_of_tellEnd told
    cases late : after.lateFound with
    | true => exact ⟨hasStarted, ended.1, .inl late⟩
    | false =>
      have atEnd : after.isAtEnd = true := ended.2.resolve_left (by simp [late])
      have none_left := tellEnd_of_timely ended late
      rw [told, ending, if_pos atEnd] at none_left
      have exhausted : after.isExhausted = true := by simpa [isAtEnd, ← none_left] using atEnd
      exact ⟨hasStarted, ended.1, .inr ⟨exhausted, none_left.symm⟩⟩

/-- A read that asks for bytes and brings none, or fails, is the last one that does anything. -/
theorem Reading.spent (reading : Reading source given reader) (positive : 0 < n)
    (none_brought : broughtBy (reader.read n).1 = []) : IsSpent (reader.read n).2 := by
  obtain ⟨standing, hasStarted⟩ := reading.start
  obtain ⟨_, ended⟩ := standing.flow
  have final : (reader.read n).2 = reader.start.flow.2.tellEnd.2 := by
    rcases read : reader.read n with ⟨reply, after⟩
    rw [read] at none_brought
    cases reply with
    | ok data =>
      obtain rfl : data = [] := none_brought
      obtain ⟨flow, told, _⟩ := reading.read_none positive read
      rw [flow, told]
    | error cause => rw [(read_failed read).2]
  have started : (reader.read n).2.hasStarted = true := by
    rw [read_of_pos positive, (serve_frame n _).1, hasStarted]
  rw [final] at started ⊢
  exact ended.spent started

theorem pos_of_failed (read : reader.read n = (.error cause, after)) : 0 < n := by
  rcases Nat.eq_zero_or_pos n with rfl | positive
  · rw [read_zero] at read
    cases read
  · exact positive

/-- A read that fails tells how the stream ended. All bytes before that were served or skipped, and
no line after the window was found. -/
theorem Reading.failed (reading : Reading source given reader)
    (read : reader.read n = (.error cause, after)) :
    source.ending = some cause ∧ after.bytesRead = source.unread.length ∧
      after.bytesRead = after.bytesSkipped + given.length ∧ reader.lateFound = false ∧
      after.lateFound = false := by
  obtain ⟨empty, told⟩ := read_failed read
  obtain ⟨failure, none_late, _⟩ := tellEnd_failed told
  obtain ⟨standing, ended⟩ := reading.start.1.flow
  have atEnd : reader.start.flow.2.isAtEnd = true := by simp [isAtEnd, failure]
  have ending : reader.start.flow.2.ending = some cause := by
    rw [SeekingReader.ending, if_pos atEnd, failure]
  have frame := tellEnd_frame reader.start.flow.2
  rw [told] at frame
  rw [empty, List.append_nil] at standing
  refine ⟨?_, ?_, ?_, ?_, frame.2.2.trans none_late⟩
  · rcases standing.ending with same | none_left
    · exact same.symm.trans ending
    · rw [ending] at none_left
      cases none_left
  · have all := standing.bytesRead
    rwa [unread_of_atEnd atEnd, List.length_nil, Nat.add_zero, ← frame.1] at all
  · rw [frame.1, frame.2.1]
    exact (standing.ended ended).resolve_left fun late => by simp [none_late] at late
  · -- a late line that was found before would have been in the way
    cases reading with
    | fresh fresh => exact fresh.lateFound
    | started hasStarted _ =>
      refine Bool.eq_false_iff.2 fun late => ?_
      rw [start_of_started hasStarted, flow_ended (.inl late)] at none_late
      exact Bool.false_ne_true (none_late.symm.trans late)

/-! ### How often the failure is told -/

theorem Reading.countP_replies_le (reading : Reading source given reader) (sizes : List Nat) :
    (reader.replies sizes).countP isFailure ≤ 1 := by
  induction sizes generalizing given reader with
  | nil => exact Nat.zero_le 1
  | cons n sizes ih =>
    rw [replies, List.countP_cons]
    rcases read : reader.read n with ⟨reply, after⟩
    cases reply with
    | ok data =>
      have next := (reading.read n).1
      rw [read] at next
      simpa [isFailure] using ih next
    | error cause =>
      have spent := reading.spent (pos_of_failed read) (by rw [read]; rfl)
      rw [read] at spent
      rw [(spent.reads sizes).1]
      simp [isFailure, List.countP_eq_zero]

theorem ending_serve {data : List UInt8} (served : reader.serve n = (.ok data, after)) :
    after.ending = reader.ending := by
  have serves := serves_serve n reader
  rw [served] at serves
  cases serves with
  | bytes _ flow => rw [← ending_flow reader, flow, ending_flow]
  | ended _ told => rw [eq_of_tellEnd told, ending_flow]

theorem Reading.ending_read (reading : Reading source given reader) {data : List UInt8}
    (read : reader.read n = (.ok data, after)) : after.ending = reader.ending := by
  rcases Nat.eq_zero_or_pos n with rfl | positive
  · rw [read_zero] at read
    cases read
    rfl
  rw [read_of_pos positive] at read
  rw [ending_serve read]
  cases reading with
  | fresh fresh => exact ending_start fresh
  | started hasStarted _ => rw [start_of_started hasStarted]

theorem Reading.ending_reads (reading : Reading source given reader) (sizes : List Nat) :
    (reader.reads sizes).2.ending = reader.ending ∨
      ∃ cause, source.ending = some cause ∧ .error cause ∈ reader.replies sizes := by
  induction sizes generalizing given reader with
  | nil => exact .inl rfl
  | cons n sizes ih =>
    rcases read : reader.read n with ⟨reply, after⟩
    rw [replies, reads_cons, read]
    cases reply with
    | ok data =>
      have next := (reading.read n).1
      rw [read] at next
      rcases ih next with same | ⟨cause, failed, told⟩
      · exact .inl (same.trans (reading.ending_read read))
      · exact .inr ⟨cause, failed, List.mem_cons_of_mem _ told⟩
    | error cause => exact .inr ⟨cause, (reading.failed read).1, List.mem_cons_self⟩

theorem IsSpent.ending (spent : IsSpent reader) (none_late : reader.lateFound = false) :
    reader.ending = none := by
  obtain ⟨exhausted, none_left⟩ := spent.told.resolve_left (by simp [none_late])
  rw [SeekingReader.ending, if_pos (by simp [isAtEnd, exhausted]), none_left]

theorem not_interruption (stream : ByteStream) (ended : stream.readAll.2 = some cause) :
    cause.isInterruption = false := by
  induction stream with
  | nil => cases ended
  | cons event rest ih =>
    cases event with
    | bytes data => exact ih (by rwa [readAll_bytes] at ended)
    | failure first =>
      cases again : first.isInterruption with
      | true => exact ih (by rwa [readAll_interruption again] at ended)
      | false =>
        rw [readAll_failure again] at ended
        cases ended
        exact again

/-! ### The end of all reads -/

/-- A failure of the stream is told once at most, in the read that comes upon the end of what was
served or skipped, and not if a late line was found; interruptions are never told. Once a read has
asked for bytes and brought none, or failed, no later one does anything, whatever the stream would
still bring, and the failure, if there was one and no late line came first, has been told. A read of
no bytes does nothing at any time. -/
theorem end_is_final (stream : ByteStream) (window : Time.Window)
    (dateOf : List UInt8 → Option Time.DateTime) (blockSize : Nat) (sizes : List Nat) :
    let source := ofStream stream window dateOf blockSize
    let given := (source.reads sizes).1
    let reader := (source.reads sizes).2
    (source.replies sizes).countP isFailure ≤ 1 ∧
      reader.read 0 = (.ok [], reader) ∧
      (∀ n cause, (reader.read n).1 = .error cause →
        let final := (reader.read n).2
        stream.readAll.2 = some cause ∧ cause.isInterruption = false ∧
          final.bytesRead = stream.readAll.1.length ∧
          final.bytesRead = final.bytesSkipped + given.length ∧
          reader.lateFound = false ∧ final.lateFound = false) ∧
      ∀ n, 0 < n → broughtBy (reader.read n).1 = [] →
        let final := (reader.read n).2
        (∀ (later : List Nat) (other : ByteStream),
          let ended := { final with stream := other }
          ended.replies later = later.map (fun _ => .ok []) ∧ (ended.reads later).2 = ended) ∧
        (final.lateFound = false → ∀ cause, stream.readAll.2 = some cause →
          .error cause ∈ source.replies (sizes ++ [n])) := by
  intro source given reader
  have unread : source.unread = stream.readAll.1 := unread_ofStream ..
  have ending : source.ending = stream.readAll.2 := ending_ofStream ..
  have first : Reading source [] source := .fresh (isFresh_ofStream ..)
  have reading : Reading source given reader := first.reads sizes
  refine ⟨first.countP_replies_le sizes, rfl, fun n cause failed => ?_,
    fun n positive none_brought => ?_⟩
  · obtain ⟨told, all, passed, none_late, still_none⟩ := reading.failed (Prod.ext failed rfl)
    rw [ending] at told
    rw [unread] at all
    exact ⟨told, not_interruption stream told, all, passed, none_late, still_none⟩
  · have spent := reading.spent positive none_brought
    refine ⟨fun later other => (spent.onStream other).reads later, fun none_late cause failed => ?_⟩
    have final : (source.reads (sizes ++ [n])).2 = (reader.read n).2 := by
      rw [reads_append]
      rfl
    -- a failure that was not told would still be the ending
    rcases first.ending_reads (sizes ++ [n]) with same | ⟨other, told, member⟩
    · rw [final, spent.ending none_late, ending, failed] at same
      cases same
    · rw [ending, failed] at told
      cases told
      exact member

def lostDay : ByteStream :=
  [.bytes (Text.encode "2020-01-01 09:00:00 a\n2020-01-02 09:00:00 b\n".toList),
    .failure .interruption, .bytes (Text.encode "2020-01-02 10:00:00 c".toList),
    .failure ⟨.other, "lost"⟩, .bytes (Text.encode "2020-01-02 11:00:00 d\n".toList)]

/-- The third read tells the failure, behind the 43 bytes of the second day, and nothing comes after
it, not even if the stream began again. -/
theorem end_lostDay :
    let source := ofStream lostDay secondDay inUtc.ofBytes 16
    let reader := (source.reads [100, 100]).2
    (reader.read 8).1 = .error ⟨.other, "lost"⟩ ∧
      (reader.read 8).2.bytesRead = (reader.read 8).2.bytesSkipped + 43 ∧
      (∀ later, { (reader.read 8).2 with stream := lostDay }.replies later =
        later.map fun _ => .ok []) ∧
      .error ⟨.other, "lost"⟩ ∈ source.replies ([100, 100] ++ [8]) := by
  intro source reader
  obtain ⟨failed, served⟩ : (reader.read 8).1 = .error ⟨.other, "lost"⟩ ∧
      (source.reads [100, 100]).1.length = 43 := by decide +kernel
  obtain ⟨_, _, failure, ended⟩ := end_is_final lostDay secondDay inUtc.ofBytes 16 [100, 100]
  obtain ⟨told, _, _, passed, _, none_late⟩ := failure 8 ⟨.other, "lost"⟩ failed
  obtain ⟨spent, surfaced⟩ := ended 8 (by decide) (congrArg broughtBy failed)
  rw [served] at passed
  exact ⟨failed, passed, fun later => (spent later lostDay).1, surfaced none_late _ told⟩

end LogQuery.SeekingReader

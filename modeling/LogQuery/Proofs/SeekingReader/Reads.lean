import LogQuery.Proofs.SeekingReader.Standing
import LogQuery.Time.Recognizer

/-! Sequences of reads.

Whatever the sizes of the reads, what they bring is one piece of the input, and what was not
brought is known: it was skipped ahead of that piece, is in the buffer, or was not read.
-/

set_option autoImplicit false

namespace LogQuery.SeekingReader

open ByteStream

def broughtBy (result : Except Failure (List UInt8)) : List UInt8 :=
  match result with
  | .ok data => data
  | .error _ => []

def reads (reader : SeekingReader) : (sizes : List Nat) → List UInt8 × SeekingReader
  | [] => ([], reader)
  | n :: sizes =>
    let (result, after) := reader.read n
    let (given, final) := after.reads sizes
    (broughtBy result ++ given, final)

/-- Is nothing left that was cleared and not served, and will nothing be cleared any more? -/
def HasEnded (reader : SeekingReader) : Prop :=
  reader.cleared ≤ reader.served ∧ (reader.lateFound = true ∨ reader.isAtEnd = true)

theorem reads_cons (reader : SeekingReader) (n : Nat) (sizes : List Nat) :
    reader.reads (n :: sizes) =
      (broughtBy (reader.read n).1 ++ ((reader.read n).2.reads sizes).1,
        ((reader.read n).2.reads sizes).2) := rfl

theorem reads_append (reader : SeekingReader) (first second : List Nat) :
    reader.reads (first ++ second) =
      ((reader.reads first).1 ++ ((reader.reads first).2.reads second).1,
        ((reader.reads first).2.reads second).2) := by
  induction first generalizing reader with
  | nil => rfl
  | cons n first ih => simp [reads_cons, ih]

/-! ### Serving -/

theorem clear_frame (reader : SeekingReader) (scanned : Nat) :
    (reader.clear scanned).hasStarted = reader.hasStarted ∧
      (reader.clear scanned).bytesSkipped = reader.bytesSkipped := by
  unfold clear
  dsimp only
  repeat' split
  all_goals exact ⟨rfl, rfl⟩

theorem fill_frame (reader : SeekingReader) :
    reader.fill.hasStarted = reader.hasStarted ∧
      reader.fill.bytesSkipped = reader.bytesSkipped := by
  unfold fill
  rcases fillFrom reader.buffer reader.blockSize reader.stream with ⟨buffer, ending, stream⟩
  cases ending <;> exact ⟨rfl, rfl⟩

theorem advance_frame (reader : SeekingReader) :
    reader.advance.hasStarted = reader.hasStarted ∧
      reader.advance.bytesSkipped = reader.bytesSkipped := by
  have cleared := clear_frame reader.compact.fill reader.compact.buffer.size
  have filled := fill_frame reader.compact
  exact ⟨cleared.1.trans filled.1, cleared.2.trans filled.2⟩

theorem serve_frame (n : Nat) (reader : SeekingReader) :
    (reader.serve n).2.hasStarted = reader.hasStarted ∧
      (reader.serve n).2.bytesSkipped = reader.bytesSkipped := by
  fun_induction serve n reader with
  | case1 reader ready stop => exact ⟨rfl, rfl⟩
  | case2 reader none_due late => exact ⟨rfl, rfl⟩
  | case3 reader none_due none_late atEnd cause failure => exact ⟨rfl, rfl⟩
  | case4 reader none_due none_late atEnd none_left => exact ⟨rfl, rfl⟩
  | case5 reader none_due none_late goesOn ih =>
    have frame := advance_frame reader
    exact ⟨ih.1.trans frame.1, ih.2.trans frame.2⟩

variable {source reader : SeekingReader} {given : List UInt8}

theorem standing_serve (standing : Standing source given reader) (n : Nat) :
    Standing source (given ++ broughtBy (reader.serve n).1) (reader.serve n).2 ∧
      (0 < n → broughtBy (reader.serve n).1 = [] → HasEnded (reader.serve n).2) := by
  fun_induction serve n reader with
  | case1 reader ready stop =>
    refine ⟨standing.give (by omega) (by omega), fun positive none_brought => ?_⟩
    -- something is ready, so a read that asks for bytes brings some
    change region reader.buffer reader.served stop = [] at none_brought
    have length := length_region reader.served
      (Nat.le_trans (Nat.min_le_right (reader.served + n) _) standing.cleared_le)
    rw [none_brought, List.length_nil] at length
    omega
  | case2 reader none_due late =>
    exact ⟨by simpa [broughtBy] using standing,
      fun _ _ => ⟨Nat.le_of_not_lt none_due, .inl late⟩⟩
  | case3 reader none_due none_late atEnd cause failure =>
    exact ⟨by simpa [broughtBy] using standing.tell atEnd,
      fun _ _ => ⟨Nat.le_of_not_lt none_due, .inr rfl⟩⟩
  | case4 reader none_due none_late atEnd none_left =>
    exact ⟨by simpa [broughtBy] using standing,
      fun _ _ => ⟨Nat.le_of_not_lt none_due, .inr atEnd⟩⟩
  | case5 reader none_due none_late goesOn ih =>
    exact ih (standing.advance (by omega) (by simpa using goesOn) (by simpa using none_late))

/-! ### Reading -/

/-- What holds before and after every read: either nothing was read, or the reader has come to the
window and its bytes are accounted for. -/
inductive Reading (source : SeekingReader) : (given : List UInt8) → SeekingReader → Prop where
  | fresh (fresh : IsFresh source) : Reading source [] source
  | started {given : List UInt8} {reader : SeekingReader} (hasStarted : reader.hasStarted = true)
    (standing : Standing source given reader) : Reading source given reader

theorem start_of_started {reader : SeekingReader} (hasStarted : reader.hasStarted = true) :
    reader.start = reader := by
  rw [SeekingReader.start, if_pos hasStarted]

theorem Reading.start (reading : Reading source given reader) :
    Standing source given reader.start ∧ reader.start.hasStarted = true := by
  cases reading with
  | fresh fresh => exact standing_start fresh
  | started hasStarted standing =>
    rw [start_of_started hasStarted]
    exact ⟨standing, hasStarted⟩

theorem read_of_pos {n : Nat} (positive : 0 < n) (reader : SeekingReader) :
    reader.read n = reader.start.serve n := by
  rw [read, if_neg (by simp; omega)]

theorem read_zero (reader : SeekingReader) : reader.read 0 = (.ok [], reader) := rfl

/-- One read, of any size, keeps the bytes accounted for. If it asks for bytes and brings none, the
reader has come to its end. -/
theorem Reading.read (reading : Reading source given reader) (n : Nat) :
    Reading source (given ++ broughtBy (reader.read n).1) (reader.read n).2 ∧
      (0 < n → Standing source (given ++ broughtBy (reader.read n).1) (reader.read n).2 ∧
        (broughtBy (reader.read n).1 = [] → HasEnded (reader.read n).2)) := by
  rcases Nat.eq_zero_or_pos n with rfl | positive
  · rw [read_zero]
    exact ⟨by simpa [broughtBy] using reading, fun positive => absurd positive (Nat.lt_irrefl 0)⟩
  · obtain ⟨standing, hasStarted⟩ := reading.start
    obtain ⟨served, ended⟩ := standing_serve standing n
    rw [read_of_pos positive]
    refine ⟨.started ?_ served, fun _ => ⟨served, ended positive⟩⟩
    rw [(serve_frame n reader.start).1, hasStarted]

theorem Reading.reads (reading : Reading source given reader) (sizes : List Nat) :
    Reading source (given ++ (reader.reads sizes).1) (reader.reads sizes).2 := by
  induction sizes generalizing given reader with
  | nil => simpa [SeekingReader.reads] using reading
  | cons n sizes ih =>
    rw [reads_cons]
    have := ih (reading.read n).1
    rwa [List.append_assoc] at this

theorem hasStarted_start (reader : SeekingReader) : reader.start.hasStarted = true := by
  unfold SeekingReader.start
  split
  · assumption
  · rw [(clear_frame _ _).1]

theorem read_frame {reader : SeekingReader} (hasStarted : reader.hasStarted = true) (n : Nat) :
    (reader.read n).2.hasStarted = true ∧
      (reader.read n).2.bytesSkipped = reader.bytesSkipped := by
  rcases Nat.eq_zero_or_pos n with rfl | positive
  · exact ⟨hasStarted, rfl⟩
  · have frame := serve_frame n reader
    rw [read_of_pos positive, start_of_started hasStarted]
    exact ⟨frame.1.trans hasStarted, frame.2⟩

theorem reads_frame {reader : SeekingReader} (hasStarted : reader.hasStarted = true)
    (sizes : List Nat) :
    (reader.reads sizes).2.hasStarted = true ∧
      (reader.reads sizes).2.bytesSkipped = reader.bytesSkipped := by
  induction sizes generalizing reader with
  | nil => exact ⟨hasStarted, rfl⟩
  | cons n sizes ih =>
    have frame := read_frame hasStarted n
    have later := ih frame.1
    exact ⟨later.1, later.2.trans frame.2⟩

theorem hasStarted_reads (reader : SeekingReader) {sizes : List Nat}
    (positive : ∃ n ∈ sizes, 0 < n) : (reader.reads sizes).2.hasStarted = true := by
  -- the reads before that one do not matter, and those after it change nothing
  obtain ⟨n, member, positive⟩ := positive
  obtain ⟨before, after, rfl⟩ := List.append_of_mem member
  rw [reads_append, reads_cons]
  refine (reads_frame ?_ after).1
  rw [read_of_pos positive, (serve_frame n _).1, hasStarted_start]

/-! ### What reads bring -/

theorem unread_of_goesOn (goesOn : reader.isAtEnd = false) :
    reader.unread = reader.stream.readAll.1 := by
  simp [unread, goesOn]

theorem unread_ofStream (stream : ByteStream) (window : Time.Window)
    (dateOf : List UInt8 → Option Time.DateTime) (blockSize : Nat) :
    (ofStream stream window dateOf blockSize).unread = stream.readAll.1 :=
  unread_of_goesOn (isFresh_ofStream stream window dateOf blockSize).atEnd

theorem ending_ofStream (stream : ByteStream) (window : Time.Window)
    (dateOf : List UInt8 → Option Time.DateTime) (blockSize : Nat) :
    (ofStream stream window dateOf blockSize).ending = stream.readAll.2 := by
  rw [ending, (isFresh_ofStream stream window dateOf blockSize).atEnd, if_neg (by simp)]
  rfl

theorem Accounts.parts (accounts : Accounts source given reader) :
    source.unread.drop reader.bytesSkipped =
      given ++ (reader.due ++ reader.held ++ reader.unread) := by
  have split := accounts.split
  rw [List.append_assoc] at split
  have rest := congrArg (List.drop reader.bytesSkipped) split
  rw [List.drop_left' (by simp [accounts.skipped_le])] at rest
  rw [rest]
  simp only [List.append_assoc]

theorem Accounts.skipped_given_le (accounts : Accounts source given reader) :
    reader.bytesSkipped + given.length ≤ source.unread.length := by
  have lengths := congrArg List.length accounts.parts
  have := accounts.skipped_le
  simp only [List.length_drop, List.length_append] at lengths
  omega

theorem Reading.accounts_or_fresh (reading : Reading source given reader) :
    Standing source given reader ∨ (IsFresh source ∧ reader = source ∧ given = []) := by
  cases reading with
  | fresh fresh => exact .inr ⟨fresh, rfl, rfl⟩
  | started hasStarted standing => exact .inl standing

theorem Reading.piece (reading : Reading source given reader) :
    given = (source.unread.drop reader.bytesSkipped).take given.length ∧
      reader.bytesSkipped + given.length ≤ source.unread.length ∧
      reader.bytesRead =
        reader.bytesSkipped + given.length + (reader.buffer.size - reader.served) := by
  rcases reading.accounts_or_fresh with standing | ⟨fresh, rfl, rfl⟩
  · refine ⟨by rw [standing.parts, List.take_left], standing.skipped_given_le, ?_⟩
    have total := standing.bytesRead_eq
    have dueLength := length_due standing.cleared_le standing.served_le
    have heldLength := length_held standing.cleared_le
    rw [List.length_append] at total
    omega
  · simp [fresh.bytesSkipped, fresh.bytesRead, fresh.buffer]

theorem Reading.skipped (reading : Reading source given reader) :
    reader.bytesSkipped = 0 ∨ source.unread[reader.bytesSkipped - 1]? = some newline ∨
      reader.bytesSkipped = source.unread.length := by
  rcases reading.accounts_or_fresh with standing | ⟨fresh, rfl, rfl⟩
  · rcases standing.skipped_whole with whole | ⟨_, all⟩
    · rcases whole.line_start standing.skipped_le with none_skipped | ended
      · exact .inl none_skipped
      · exact .inr (.inl ended)
    · exact .inr (.inr all)
  · exact .inl fresh.bytesSkipped

/-- At its end, a reader is in front of a late line or has nothing left. -/
theorem Standing.next (standing : Standing source given reader) (ended : HasEnded reader) :
    (reader.lateFound = true ∧ ∃ line lines,
      segments (reader.held ++ reader.unread) = line :: lines ∧
      isLate source.dateOf source.window.finish line = true ∧
      reader.bytesRead < reader.bytesSkipped + given.length + line.length + reader.blockSize) ∨
    (reader.lateFound = false ∧ segments (reader.held ++ reader.unread) = []) := by
  have none_due := due_eq_nil ended.1
  cases late : reader.lateFound with
  | true =>
    left
    obtain ⟨line, lines, first, isLate, complete, bound⟩ := standing.late late
    rw [none_due, List.append_nil] at bound
    rcases complete with newlineEnds | ⟨atEnd, rfl⟩
    · exact ⟨rfl, line, _, segments_append_of_ended first newlineEnds _, isLate, bound⟩
    · refine ⟨rfl, line, [], ?_, isLate, bound⟩
      rw [unread_of_atEnd atEnd, List.append_nil, first]
  | false =>
    right
    have atEnd := ended.2.resolve_left (by simp [late])
    have none_held := standing.rest late
    rw [if_pos atEnd] at none_held
    rw [none_held, unread_of_atEnd atEnd]
    exact ⟨rfl, rfl⟩

theorem Standing.ended (standing : Standing source given reader) (ended : HasEnded reader) :
    (reader.lateFound = true ∧
      IsWhole (source.unread.take (reader.bytesSkipped + given.length)) ∧
      ∃ line, (segments (source.unread.drop (reader.bytesSkipped + given.length))).head? =
        some line ∧ isLate source.dateOf source.window.finish line = true) ∨
    reader.bytesRead = reader.bytesSkipped + given.length := by
  have none_due := due_eq_nil ended.1
  have rest := congrArg (List.drop given.length) standing.parts
  rw [List.drop_drop, List.drop_left, none_due, List.nil_append] at rest
  rcases standing.next ended with ⟨late, line, lines, first, isLate, _⟩ | ⟨_, none_left⟩
  · left
    refine ⟨late, ?_, line, by rw [rest, first, List.head?_cons], isLate⟩
    rw [List.take_add, standing.parts, List.take_left]
    -- neither of the two parts can have been cut off by the end of the input
    have skipped : IsWhole (source.unread.take reader.bytesSkipped) := by
      refine standing.skipped_whole.resolve_right fun final => ?_
      rw [(standing.nothing_left final.2).2] at first
      cases first
    have served : IsWhole (given ++ reader.due) :=
      standing.cleared_whole.resolve_right fun final => by simp [late] at final
    rw [none_due, List.append_nil] at served
    exact skipped.append served
  · right
    have none_held := (List.append_eq_nil_iff.1 (segments_eq_nil.1 none_left)).1
    have total := standing.bytesRead_eq
    simpa [none_due, none_held] using total

/-- A reader loses, repeats and reorders nothing, whatever its input is and however it is read: what
it serves is one piece of the input, behind what it skipped. Reads that ask for bytes and bring
none, or fail, come only in front of a late line or when all is served. -/
theorem reads_account (stream : ByteStream) (window : Time.Window)
    (dateOf : List UInt8 → Option Time.DateTime) (blockSize : Nat) (sizes : List Nat) :
    let source := ofStream stream window dateOf blockSize
    let input := stream.readAll.1
    let given := (source.reads sizes).1
    let reader := (source.reads sizes).2
    given = (input.drop reader.bytesSkipped).take given.length ∧
      reader.bytesSkipped + given.length ≤ input.length ∧
      reader.bytesRead =
        reader.bytesSkipped + given.length + (reader.buffer.size - reader.served) ∧
      (reader.bytesSkipped = 0 ∨ input[reader.bytesSkipped - 1]? = some newline ∨
        reader.bytesSkipped = input.length) ∧
      ((∃ n ∈ sizes, 0 < n) → ∀ later, (reader.reads later).2.bytesSkipped = reader.bytesSkipped) ∧
      ∀ n, 0 < n → broughtBy (reader.read n).1 = [] →
        let final := (reader.read n).2
        let place := final.bytesSkipped + given.length
        (final.lateFound = true ∧
          (place = 0 ∨ input[place - 1]? = some newline) ∧
          ∃ line, (segments (input.drop place)).head? = some line ∧
            isLate dateOf window.finish line = true) ∨
        final.bytesRead = place := by
  intro source input given reader
  have same : source.unread = input := unread_ofStream stream window dateOf blockSize
  have first : Reading source [] source := .fresh (isFresh_ofStream ..)
  have reading : Reading source given reader := first.reads sizes
  have piece := reading.piece
  have skipped := reading.skipped
  rw [same] at piece skipped
  refine ⟨piece.1, piece.2.1, piece.2.2, skipped, fun positive later => ?_,
    fun n positive none_brought => ?_⟩
  · exact (reads_frame (hasStarted_reads source positive) later).2
  · -- a read that asks and brings nothing leaves the reader at its end
    obtain ⟨standing, ended⟩ := (reading.read n).2 positive
    rw [none_brought, List.append_nil] at standing
    have ending := standing.ended (ended none_brought)
    rw [same] at ending
    refine ending.imp_left fun ⟨late, whole, line, next, isLate⟩ => ⟨late, ?_, line, next, isLate⟩
    have bound := standing.skipped_given_le
    rw [same] at bound
    exact whole.line_start bound

def threeDays : ByteStream :=
  [.bytes (Text.encode "2020-01-01 09:00:00 a\n2020-01-02 09:00:00 b\n2020-01-03 09:00:00 c".toList)]

def secondDay : Time.Window :=
  ⟨⟨1577923200, Time.toNano 0, 0⟩, ⟨1578009599, Time.toNano 0, 0⟩⟩

def inUtc : Time.Recognizer := ⟨0, ⟨1600000000, Time.toNano 0, 0⟩⟩

theorem reads_secondDay :
    let source := ofStream threeDays secondDay inUtc.ofBytes 16
    let input := threeDays.readAll.1
    let given := (source.reads [30]).1
    let reader := (source.reads [30]).2
    given = (input.drop 22).take 22 ∧
      (∀ later, (reader.reads later).2.bytesSkipped = 22) ∧
      (reader.read 8).2.lateFound = true ∧
      ∃ line, (segments (input.drop 44)).head? = some line ∧
        isLate inUtc.ofBytes secondDay.finish line = true := by
  intro source input given reader
  obtain ⟨skipped, served, none_brought, place, unread⟩ :
      reader.bytesSkipped = 22 ∧ given.length = 22 ∧ broughtBy (reader.read 8).1 = [] ∧
        (reader.read 8).2.bytesSkipped + given.length = 44 ∧
        (reader.read 8).2.bytesRead ≠ 44 := by decide +kernel
  obtain ⟨piece, _, _, _, fixed, atEnd⟩ := reads_account threeDays secondDay inUtc.ofBytes 16 [30]
  rw [served, skipped] at piece
  have fixed := fixed ⟨30, by decide, by decide⟩
  rw [skipped] at fixed
  refine ⟨piece, fixed, ?_⟩
  rcases atEnd 8 (by decide) none_brought with ⟨late, _, line, next, isLate⟩ | all
  · have next : (segments (input.drop ((reader.read 8).2.bytesSkipped + given.length))).head? =
        some line := next
    rw [place] at next
    exact ⟨late, line, next, isLate⟩
  · exact absurd (all.trans place) unread

end LogQuery.SeekingReader

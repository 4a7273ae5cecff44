import LogQuery.Proofs.SeekingReader.Flow
import LogQuery.Proofs.Time.Recognizer

/-! What a reader serves of an input whose lines come in the order of their dates: lines from one
that is not behind the first in the window, up to the first late one. -/

set_option autoImplicit false

namespace LogQuery.SeekingReader

open ByteStream

def hasReached (dateOf : List UInt8 → Option Time.DateTime) (start : Time.DateTime)
    (line : List UInt8) : Bool :=
  (dateOf line).any (start ≤ ·)

def offset (lines : List (List UInt8)) (index : Nat) : Nat := (lines.take index).flatten.length

theorem mem_dates {dateOf : List UInt8 → Option Time.DateTime} (ignores : IgnoresNewline dateOf)
    {bytes line : List UInt8} {d : Time.DateTime} (member : line ∈ segments bytes)
    (dated : dateOf line = some d) : d ∈ dates dateOf bytes :=
  List.mem_filterMap.2 ⟨line, member, by rw [ignores, dated]⟩

theorem not_any_date {dateOf : List UInt8 → Option Time.DateTime} (ignores : IgnoresNewline dateOf)
    {test : Time.DateTime → Bool} {bytes : List UInt8}
    (fails : ∀ d ∈ dates dateOf bytes, test d = false) :
    ∀ line ∈ segments bytes, (dateOf line).any test = false := by
  intro line member
  cases dated : dateOf line with
  | none => rfl
  | some d => exact fails d (mem_dates ignores member dated)

theorem not_hasReached {dateOf : List UInt8 → Option Time.DateTime}
    (ignores : IgnoresNewline dateOf) {start : Time.DateTime} {bytes : List UInt8}
    (early : ∀ d ∈ dates dateOf bytes, d < start) :
    ∀ line ∈ segments bytes, hasReached dateOf start line = false := by
  apply not_any_date ignores
  intro d member
  simpa [Time.DateTime.not_le] using early d member

theorem not_isLate {dateOf : List UInt8 → Option Time.DateTime}
    (ignores : IgnoresNewline dateOf) {finish : Time.DateTime} {bytes : List UInt8}
    (timely : ∀ d ∈ dates dateOf bytes, d ≤ finish) :
    ∀ line ∈ segments bytes, isLate dateOf finish line = false := by
  apply not_any_date ignores
  intro d member
  simpa [Time.DateTime.not_lt] using timely d member

section Standing

variable {source reader : SeekingReader} {given : List UInt8}

/-- At its end, a reader has cut the input between lines: behind those that it skipped, and behind
those that it served. -/
theorem Standing.lines (standing : Standing source given reader) (ended : HasEnded reader) :
    segments source.unread =
      segments (source.unread.take reader.bytesSkipped) ++
        (segments given ++ segments (reader.held ++ reader.unread)) := by
  have none_due := due_eq_nil ended.1
  have split := standing.split
  rw [none_due, List.append_nil, List.append_assoc] at split
  have back : segments (given ++ (reader.held ++ reader.unread)) =
      segments given ++ segments (reader.held ++ reader.unread) := by
    have cut := standing.cleared_whole
    rw [none_due, List.append_nil] at cut
    rcases cut with whole | ⟨atEnd, none_held, _⟩
    · exact segments_append whole _
    · simp [none_held, unread_of_atEnd atEnd, segments]
  have cut := standing.skipped_whole
  rw [none_due, List.append_nil] at cut
  rcases cut with whole | ⟨none_given, all⟩
  · rw [← back, ← segments_append whole, ← split]
  · have none_left := (standing.nothing_left all).2
    rw [none_given, none_left, all, List.take_length]
    simp [segments]

/-- What a reader leaves behind that has read lines in the order of their dates to its end: the
lines that it skipped are too early, those that it served are not late, and the next is. -/
structure Covers (source : SeekingReader) (given : List UInt8) (reader : SeekingReader)
    (skipped served : List (List UInt8)) : Prop where
  lines : ∃ rest, segments source.unread = skipped ++ (served ++ rest) ∧
    ((reader.lateFound = true ∧ ∃ line lines, rest = line :: lines ∧
      isLate source.dateOf source.window.finish line = true ∧
      reader.bytesRead < (skipped ++ (served ++ [line])).flatten.length + source.blockSize) ∨
    (reader.lateFound = false ∧ rest = []))
  bytesSkipped : skipped.flatten.length = reader.bytesSkipped
  given : served.flatten = given
  early : ∀ line ∈ skipped, hasReached source.dateOf source.window.start line = false
  timely : ∀ line ∈ served, isLate source.dateOf source.window.finish line = false
  kept : (∃ line ∈ segments source.unread,
      hasReached source.dateOf source.window.start line = true) ∨
    reader.bytesSkipped = source.unread.length

theorem Standing.covers (standing : Standing source given reader) (ended : HasEnded reader)
    (ordered : IsOrdered source) :
    Covers source given reader (segments (source.unread.take reader.bytesSkipped))
      (segments given) where
  lines := by
    refine ⟨_, standing.lines ended, (standing.next ended).imp_left ?_⟩
    rintro ⟨late, line, lines, first, isLate, bound⟩
    refine ⟨late, line, lines, first, isLate, ?_⟩
    rw [standing.blockSize] at bound
    simpa [flatten_segments, Nat.min_eq_left standing.skipped_le, Nat.add_assoc] using bound
  bytesSkipped := by
    rw [flatten_segments, List.length_take, Nat.min_eq_left standing.skipped_le]
  given := flatten_segments given
  early := not_hasReached ordered.1 (standing.early ordered)
  timely := by
    have timely := standing.timely ordered
    rw [due_eq_nil ended.1, List.append_nil] at timely
    exact not_isLate ordered.1 timely
  kept := by
    refine standing.kept.imp_left fun ⟨d, member, reaches⟩ => ?_
    obtain ⟨line, among, dated⟩ := List.mem_filterMap.1 member
    rw [ordered.1 line] at dated
    exact ⟨line, among, by simpa [hasReached, dated] using reaches⟩

end Standing

section Covers

variable {source reader : SeekingReader} {given : List UInt8} {skipped served : List (List UInt8)}

theorem not_isLate_of_early {dateOf : List UInt8 → Option Time.DateTime} {window : Time.Window}
    (forwards : window.start ≤ window.finish) {line : List UInt8}
    (early : hasReached dateOf window.start line = false) :
    isLate dateOf window.finish line = false := by
  rw [hasReached] at early
  rw [isLate]
  cases dated : dateOf line with
  | none => rfl
  | some d =>
    have before : d < window.start := by simpa [dated, Time.DateTime.not_le] using early
    have := Time.DateTime.lt_of_lt_of_le before forwards
    simp only [Option.any_some, decide_eq_false_iff_not, Time.DateTime.not_lt]
    exact Int.le_of_lt this

theorem offset_append (front back : List (List UInt8)) :
    offset (front ++ back) front.length = front.flatten.length := by
  rw [offset, List.take_left]

theorem Covers.firstLate (covers : Covers source given reader skipped served)
    (forwards : source.window.start ≤ source.window.finish) :
    (segments source.unread).findIdx? (isLate source.dateOf source.window.finish) =
      if reader.lateFound then some (skipped ++ served).length else none := by
  obtain ⟨rest, lines, next⟩ := covers.lines
  have none_skipped : skipped.findIdx? (isLate source.dateOf source.window.finish) = none :=
    List.findIdx?_eq_none_iff.2 fun line member =>
      not_isLate_of_early forwards (covers.early line member)
  have none_served : served.findIdx? (isLate source.dateOf source.window.finish) = none :=
    List.findIdx?_eq_none_iff.2 covers.timely
  rw [lines, List.findIdx?_append, List.findIdx?_append, none_skipped, none_served]
  rcases next with ⟨late, line, lines, rfl, isLate, _⟩ | ⟨none_late, rfl⟩
  · simp [List.findIdx?_cons, isLate, late, Nat.add_comm]
  · simp [none_late]

theorem Covers.lateFound_eq (covers : Covers source given reader skipped served)
    (forwards : source.window.start ≤ source.window.finish)
    (ignores : IgnoresNewline source.dateOf) :
    reader.lateFound =
      (dates source.dateOf source.unread).any (source.window.finish < ·) := by
  have byLines : (dates source.dateOf source.unread).any (source.window.finish < ·) =
      (segments source.unread).any (isLate source.dateOf source.window.finish) := by
    rw [dates, List.any_filterMap]
    congr 1
    funext line
    rw [ignores, isLate]
    cases source.dateOf line <;> rfl
  rw [byLines, ← List.findIdx?_isSome, covers.firstLate forwards]
  cases reader.lateFound <;> rfl

theorem Covers.firstReached (covers : Covers source given reader skipped served) {first : Nat}
    (found : (segments source.unread).findIdx?
      (hasReached source.dateOf source.window.start) = some first) : skipped.length ≤ first := by
  obtain ⟨rest, lines, _⟩ := covers.lines
  have none_skipped : skipped.findIdx? (hasReached source.dateOf source.window.start) = none :=
    List.findIdx?_eq_none_iff.2 covers.early
  rw [lines, List.findIdx?_append, none_skipped, Option.none_or, Option.map_eq_some_iff] at found
  obtain ⟨place, _, rfl⟩ := found
  exact Nat.le_add_left _ _

theorem Covers.unreached (covers : Covers source given reader skipped served)
    (none_reached : (segments source.unread).findIdx?
      (hasReached source.dateOf source.window.start) = none) :
    given = [] ∧ reader.bytesSkipped = source.unread.length := by
  have all := covers.kept.resolve_left fun ⟨line, member, reaches⟩ => by
    have misses := List.findIdx?_eq_none_iff.1 none_reached line member
    simp [reaches] at misses
  refine ⟨?_, all⟩
  obtain ⟨rest, lines, _⟩ := covers.lines
  have lengths := congrArg List.length (congrArg List.flatten lines)
  rw [flatten_segments, List.flatten_append, List.flatten_append, covers.given,
    List.length_append, covers.bytesSkipped, all, List.length_append] at lengths
  exact List.eq_nil_of_length_eq_zero (by omega)

/-- What is served goes from where the skipped lines end to the first late line. -/
theorem Covers.given_eq (covers : Covers source given reader skipped served)
    (forwards : source.window.start ≤ source.window.finish) :
    let lines := segments source.unread
    let late := lines.findIdx? (isLate source.dateOf source.window.finish)
    reader.bytesSkipped = offset lines skipped.length ∧
      given = (source.unread.take (offset lines (late.getD lines.length))).drop
        reader.bytesSkipped ∧
      ∀ place, late = some place →
        reader.bytesRead < offset lines (place + 1) + source.blockSize := by
  intro lines late
  have firstLate : late = _ := covers.firstLate forwards
  obtain ⟨rest, cut, next⟩ := covers.lines
  have skippedEnd : reader.bytesSkipped = offset lines skipped.length := by
    have cut : lines = skipped ++ (served ++ rest) := cut
    rw [← covers.bytesSkipped, cut, offset_append]
  have whole : lines = (skipped ++ served) ++ rest := by rw [List.append_assoc]; exact cut
  -- what is served ends where the first late line begins, or with the input
  have stop : offset lines (late.getD lines.length) = (skipped ++ served).flatten.length := by
    rcases next with ⟨found, _⟩ | ⟨none_late, rfl⟩
    · rw [firstLate, found, if_pos rfl, whole, Option.getD_some, offset_append]
    · rw [firstLate, none_late, if_neg (by simp), whole, List.append_nil, Option.getD_none, offset,
        List.take_length]
  refine ⟨skippedEnd, ?_, fun place found => ?_⟩
  · have bytes := flatten_segments source.unread
    rw [cut, ← List.append_assoc, List.flatten_append] at bytes
    rw [stop, ← bytes, List.take_left, List.flatten_append, ← covers.bytesSkipped, List.drop_left,
      covers.given]
  · rw [firstLate] at found
    rcases next with ⟨isFound, line, further, rfl, _, bound⟩ | ⟨none_late, _⟩
    · rw [isFound, if_pos rfl, Option.some_inj] at found
      have behind : lines = (skipped ++ (served ++ [line])) ++ further := by
        rw [whole]
        simp
      have place_eq : place + 1 = (skipped ++ (served ++ [line])).length := by
        rw [← found]
        simp [Nat.add_assoc]
      rw [place_eq, behind, offset_append]
      exact bound
    · simp [none_late] at found

end Covers

theorem Accounts.tellEnd {source reader : SeekingReader} {given : List UInt8}
    (accounts : Accounts source given reader) (unbroken : source.ending = none)
    (ended : HasEnded reader) : reader.tellEnd.1 = none := by
  have none_left : reader.ending = none := by
    rcases accounts.ending with same | none_left
    · rw [same, unbroken]
    · exact none_left
  rw [SeekingReader.tellEnd]
  cases failure : reader.failure with
  | none => rfl
  | some cause =>
    -- only a late line keeps a reader from telling its failure
    have late : reader.lateFound = true := by
      refine ended.2.resolve_right fun atEnd => ?_
      rw [SeekingReader.ending, if_pos atEnd, failure] at none_left
      exact Option.some_ne_none cause none_left
    rw [late]
    rfl

theorem exhaust_covers {stream : ByteStream} (window : Time.Window)
    {dateOf : List UInt8 → Option Time.DateTime} (blockSize : Nat) {sizes : Nat → Nat}
    (positive : ∀ i, 0 < sizes i) (unbroken : stream.readAll.2 = none)
    (ignores : IgnoresNewline dateOf)
    (ordered : (dates dateOf stream.readAll.1).Pairwise (· ≤ ·)) :
    let source := ofStream stream window dateOf blockSize
    let (given, failure, final) := source.exhaust sizes
    failure = none ∧ ∃ skipped served reader, Covers source given reader skipped served ∧
      final.bytesRead = reader.bytesRead ∧ final.bytesSkipped = reader.bytesSkipped ∧
      final.lateFound = reader.lateFound := by
  intro source
  have fresh : IsFresh source := isFresh_ofStream ..
  obtain ⟨standing, ended⟩ := (standing_start fresh).1.flow
  rw [List.nil_append] at standing
  have isOrdered : IsOrdered source := by
    refine ⟨ignores, ?_⟩
    rw [unread_ofStream]
    exact ordered
  rw [exhaust_eq (.fresh fresh) positive]
  refine ⟨standing.tellEnd (by rw [ending_ofStream, unbroken]) ended, _, _, _,
    standing.covers ended isOrdered, tellEnd_frame _⟩

/-- Of lines in the order of their dates, a reader serves those from a line that is not behind the
first in the window, up to the first late one, whatever the sizes of blocks and reads are; behind
that it reads less than a block. If no line reaches the window, all are skipped. -/
theorem exhaust_window (recognizer : Time.Recognizer) {stream : ByteStream}
    (unbroken : stream.readAll.2 = none)
    (ordered : (dates recognizer.ofBytes stream.readAll.1).Pairwise (· ≤ ·))
    {window : Time.Window} (forwards : window.start ≤ window.finish) {blockSize : Nat}
    (blockSize_pos : 0 < blockSize) {sizes : Nat → Nat} (sizes_pos : ∀ i, 0 < sizes i) :
    let input := stream.readAll.1
    let lines := segments input
    let reached := lines.findIdx? (hasReached recognizer.ofBytes window.start)
    let late := lines.findIdx? (isLate recognizer.ofBytes window.finish)
    let (given, failure, final) :=
      (ofStream stream window recognizer.ofBytes blockSize).exhaust sizes
    failure = none ∧ final.lateFound = late.isSome ∧
      (reached = none → given = [] ∧ final.bytesSkipped = input.length) ∧
      ∀ place, reached = some place →
        (∃ first ≤ place, final.bytesSkipped = offset lines first) ∧
        given = (input.take (offset lines (late.getD lines.length))).drop final.bytesSkipped ∧
        ∀ place, late = some place →
          final.bytesRead < offset lines (place + 1) + blockSize := by
  intro input lines reached late
  obtain ⟨none_told, skipped, served, reader, covers, bytesRead, bytesSkipped, lateFound⟩ :=
    exhaust_covers window blockSize sizes_pos unbroken recognizer.ignoresNewline ordered
  have firstLate := covers.firstLate forwards
  have unreached := covers.unreached
  have firstReached := @covers.firstReached
  obtain ⟨skippedEnd, given_eq, recent⟩ := covers.given_eq forwards
  rw [unread_ofStream] at firstLate unreached firstReached skippedEnd given_eq recent
  rw [← bytesSkipped] at unreached skippedEnd given_eq
  -- only a block of no bytes would be taken for a larger one
  have atLeastOne : (ofStream stream window recognizer.ofBytes blockSize).blockSize = blockSize :=
    Nat.max_eq_left blockSize_pos
  rw [← bytesRead, atLeastOne] at recent
  refine ⟨none_told, lateFound.trans ?_, unreached,
    fun place found => ⟨⟨_, firstReached found, skippedEnd⟩, given_eq, recent⟩⟩
  rw [show late = _ from firstLate]
  cases reader.lateFound <;> rfl

theorem exhaust_secondDay :
    let lines := segments threeDays.readAll.1
    let (given, failure, final) :=
      (ofStream threeDays secondDay inUtc.ofBytes 16).exhaust fun _ => 8
    failure = none ∧ final.lateFound = true ∧
      (∃ first ≤ 1, final.bytesSkipped = offset lines first) ∧
      given = (threeDays.readAll.1.take 44).drop final.bytesSkipped ∧ final.bytesRead < 81 := by
  intro lines
  obtain ⟨reached, late, found, past⟩ :
      lines.findIdx? (hasReached inUtc.ofBytes secondDay.start) = some 1 ∧
        lines.findIdx? (isLate inUtc.ofBytes secondDay.finish) = some 2 ∧
        offset lines 2 = 44 ∧ offset lines 3 = 65 := by decide +kernel
  obtain ⟨none_told, lateFound, _, window⟩ :=
    @exhaust_window inUtc threeDays rfl (by decide +kernel) secondDay (by decide) 16 (by decide)
      (fun _ => 8) fun _ => by decide
  obtain ⟨first, given, recent⟩ := window 1 reached
  have recent := recent 2 late
  rw [past] at recent
  rw [show (segments threeDays.readAll.1).findIdx? _ = _ from late] at lateFound given
  rw [Option.getD_some, found] at given
  exact ⟨none_told, lateFound, first, given, recent⟩

end LogQuery.SeekingReader

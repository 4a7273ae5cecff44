import LogQuery.Proofs.ByteStream.LastDate
import LogQuery.Proofs.SeekingReader.Filling
import LogQuery.Proofs.Time.Order
import Mathlib.Data.List.TakeWhile

/-! What the reader's scans over its buffer find, said of the lines in the buffer. -/

set_option autoImplicit false

namespace LogQuery.SeekingReader

open ByteStream

def isLate (dateOf : List UInt8 → Option Time.DateTime) (finish : Time.DateTime)
    (line : List UInt8) : Bool :=
  (dateOf line).any (finish < ·)

def due (reader : SeekingReader) : List UInt8 := region reader.buffer reader.served reader.cleared

def held (reader : SeekingReader) : List UInt8 :=
  region reader.buffer reader.cleared reader.buffer.size

theorem lineEnd_le {buffer : Array UInt8} {stop place : Nat} (order : place ≤ stop) :
    lineEnd buffer stop place ≤ stop := by
  fun_induction lineEnd buffer stop place with
  | case1 place inside ends => omega
  | case2 place inside other ih => exact ih (by omega)
  | case3 place outside => exact order

theorem segments_lineEnd {buffer : Array UInt8} {stop place : Nat} (order : place < stop)
    (bound : stop ≤ buffer.size) :
    segments (region buffer place stop) =
      region buffer place (lineEnd buffer stop place) ::
        segments (region buffer (lineEnd buffer stop place) stop) := by
  fun_induction lineEnd buffer stop place with
  | case1 place inside ends =>
    rw [← region_append buffer (Nat.le_succ place) inside, region_succ ends, List.singleton_append,
      segments, if_pos rfl]
  | case2 place inside other ih =>
    have here : buffer[place]? = some buffer[place] := Array.getElem?_eq_getElem (by omega)
    have different : buffer[place] ≠ newline := fun same => other (by rw [here, same])
    rw [← region_append buffer (Nat.le_succ place) inside, region_succ here,
      List.singleton_append, segments, if_neg different]
    -- the byte goes in front of the next segment, unless there is none
    by_cases last : place + 1 < stop
    · have further : place + 1 < lineEnd buffer stop (place + 1) := lt_lineEnd last
      have cut := region_append buffer (Nat.le_succ place) (Nat.le_of_lt further)
      rw [ih last, ← cut, region_succ here, List.singleton_append]
    · have same : stop = place + 1 := by omega
      subst same
      rw [lineEnd, if_neg (by omega), region_succ here]
      simp [segments]
  | case3 place outside => exact absurd order outside

theorem clearLines_eq (dateOf : List UInt8 → Option Time.DateTime) (finish : Time.DateTime)
    {buffer : Array UInt8} {stop place : Nat} (order : place ≤ stop) (bound : stop ≤ buffer.size) :
    let lines := segments (region buffer place stop)
    let cleared := clearLines dateOf finish buffer stop place
    place ≤ cleared.1 ∧ cleared.1 ≤ stop ∧
      region buffer place cleared.1 = (lines.takeWhile (!isLate dateOf finish ·)).flatten ∧
      region buffer cleared.1 stop = (lines.dropWhile (!isLate dateOf finish ·)).flatten ∧
      cleared.2 = lines.any (isLate dateOf finish) := by
  fun_induction clearLines dateOf finish buffer stop place with
  | case1 place inside next late =>
    have isLate : isLate dateOf finish (region buffer place (lineEnd buffer stop place)) = true :=
      late
    simp only [segments_lineEnd inside bound]
    refine ⟨Nat.le_refl _, order, by simp [isLate], ?_, by simp [isLate]⟩
    rw [List.dropWhile_cons_of_neg (by simp [isLate]), ← segments_lineEnd inside bound,
      flatten_segments]
  | case2 place inside next timely ih =>
    have within : next ≤ stop := lineEnd_le (Nat.le_of_lt inside)
    have further : place < next := lt_lineEnd inside
    have notLate : isLate dateOf finish (region buffer place (lineEnd buffer stop place)) = false :=
      Bool.eq_false_iff.2 timely
    obtain ⟨lower, upper, front, back, found⟩ := ih within
    simp only [segments_lineEnd inside bound]
    refine ⟨by omega, upper, ?_, by simpa [notLate] using back, by simpa [notLate] using found⟩
    rw [← region_append buffer (Nat.le_of_lt further) lower, front]
    simp [notLate, next]
  | case3 place outside =>
    obtain rfl : place = stop := by omega
    simp [segments]

/-- From `start` on, `stop` is where the last complete line in the buffer ends; behind it no newline
is left. At the end of the stream every line is complete. -/
structure CompleteUpTo (reader : SeekingReader) (start stop : Nat) : Prop where
  forwards : start ≤ stop
  bound : stop ≤ reader.buffer.size
  full : reader.isAtEnd = true → stop = reader.buffer.size
  whole : reader.isAtEnd = false → IsWhole (region reader.buffer start stop)
  unended : reader.isAtEnd = false → newline ∉ region reader.buffer stop reader.buffer.size

theorem completeEnd_spec {reader : SeekingReader} {start scanned : Nat} (order : start ≤ scanned)
    (bound : scanned ≤ reader.buffer.size)
    (searched : newline ∉ region reader.buffer start scanned) :
    CompleteUpTo reader start (reader.completeEnd start scanned) := by
  have lower := le_lineStart reader.buffer scanned reader.buffer.size
  have upper := lineStart_le reader.buffer bound
  obtain ⟨whole, unended⟩ := lineStart_spec reader.buffer bound (Nat.le_refl _)
  cases atEnd : reader.isAtEnd with
  | true =>
    rw [completeEnd, atEnd, if_pos rfl]
    exact ⟨by omega, Nat.le_refl _, fun _ => rfl, by simp [atEnd], by simp [atEnd]⟩
  | false =>
    rw [completeEnd, atEnd]
    by_cases found : scanned < lineStart reader.buffer scanned reader.buffer.size
    · simp only [Bool.false_eq_true, if_false, if_pos found]
      refine ⟨by omega, upper, by simp [atEnd], fun _ => ?_, fun _ => unended⟩
      rw [← region_append reader.buffer order lower]
      refine whole.prepend (fun empty => ?_) _
      have := length_region scanned upper
      rw [empty, List.length_nil] at this
      omega
    · have same : lineStart reader.buffer scanned reader.buffer.size = scanned := by omega
      -- no newline was found, so nothing more is complete
      simp only [Bool.false_eq_true, if_false, if_neg found]
      refine ⟨Nat.le_refl _, by omega, by simp [atEnd], fun _ => by simp [IsWhole], fun _ => ?_⟩
      rw [← region_append reader.buffer order bound]
      rw [same] at unended
      simpa using ⟨searched, unended⟩

theorem CompleteUpTo.whole_or_full {reader : SeekingReader} {start stop : Nat}
    (complete : CompleteUpTo reader start stop) :
    IsWhole (region reader.buffer start stop) ∨
      (reader.isAtEnd = true ∧ stop = reader.buffer.size) := by
  cases atEnd : reader.isAtEnd with
  | true => exact .inr ⟨rfl, complete.full atEnd⟩
  | false => exact .inl (complete.whole atEnd)

theorem CompleteUpTo.dates_append {reader : SeekingReader} {start stop : Nat}
    (complete : CompleteUpTo reader start stop) :
    dates reader.dateOf (region reader.buffer start reader.buffer.size ++ reader.unread) =
      dates reader.dateOf (region reader.buffer start stop) ++
        dates reader.dateOf (region reader.buffer stop reader.buffer.size ++ reader.unread) := by
  rcases complete.whole_or_full with whole | ⟨atEnd, rfl⟩
  · rw [← ByteStream.dates_append _ whole, ← List.append_assoc,
      region_append reader.buffer complete.forwards complete.bound]
  · simp [unread_of_atEnd atEnd]

/-- What clearing makes of a reader in which no late line was found before. -/
structure Clears (before after : SeekingReader) : Prop where
  same : after = { before with cleared := after.cleared, lateFound := after.lateFound }
  forwards : before.cleared ≤ after.cleared
  bound : after.cleared ≤ before.buffer.size
  whole : IsWhole (region before.buffer before.cleared after.cleared) ∨
    (before.isAtEnd = true ∧ after.cleared = before.buffer.size ∧ after.lateFound = false)
  rest : after.lateFound = false →
    if before.isAtEnd then after.held = [] else newline ∉ after.held
  late : after.lateFound = true → ∃ line lines, segments after.held = line :: lines ∧
    isLate before.dateOf before.window.finish line = true ∧
    (line.getLast? = some newline ∨ (before.isAtEnd = true ∧ lines = []))
  timely : IgnoresNewline before.dateOf →
    (dates before.dateOf (before.held ++ before.unread)).Pairwise (· ≤ ·) →
    ∀ d ∈ dates before.dateOf (region before.buffer before.cleared after.cleared),
      d ≤ before.window.finish

theorem le_of_takeWhile {dateOf : List UInt8 → Option Time.DateTime} {finish : Time.DateTime}
    (ignores : IgnoresNewline dateOf) {bytes front : List UInt8}
    (cut : front = ((segments bytes).takeWhile (!isLate dateOf finish ·)).flatten) :
    ∀ d ∈ dates dateOf front, d ≤ finish := by
  intro d member
  have lines : segments front = (segments bytes).takeWhile (!isLate dateOf finish ·) := by
    rw [cut]
    exact (segments_cut (List.takeWhile_append_dropWhile).symm).1
  rw [dates, lines] at member
  obtain ⟨line, among, dated⟩ := List.mem_filterMap.1 member
  have notLate := List.mem_takeWhile_imp among
  rw [ignores line] at dated
  rw [isLate, dated] at notLate
  simpa [Time.DateTime.not_lt] using notLate

theorem Clears.all {reader : SeekingReader} {stop : Nat}
    (complete : CompleteUpTo reader reader.cleared stop) (goesOn : reader.lateFound = false)
    (timely : IgnoresNewline reader.dateOf →
      (dates reader.dateOf (region reader.buffer reader.cleared stop)).Pairwise (· ≤ ·) →
      ∀ d ∈ dates reader.dateOf (region reader.buffer reader.cleared stop),
        d ≤ reader.window.finish) :
    Clears reader { reader with cleared := stop } where
  same := rfl
  forwards := complete.forwards
  bound := complete.bound
  whole := complete.whole_or_full.imp_right fun ⟨atEnd, all⟩ => ⟨atEnd, all, goesOn⟩
  rest _ := by
    cases atEnd : reader.isAtEnd with
    | true => simp [held, complete.full atEnd]
    | false => simpa [held] using complete.unended atEnd
  late found := by simp [goesOn] at found
  timely ignores ordered := by
    rw [held, complete.dates_append] at ordered
    exact timely ignores (List.pairwise_append.1 ordered).1

theorem CompleteUpTo.later {reader : SeekingReader} {start place stop : Nat}
    (complete : CompleteUpTo reader start stop) (lower : start ≤ place) (upper : place ≤ stop) :
    CompleteUpTo reader place stop where
  forwards := upper
  bound := complete.bound
  full := complete.full
  whole goesOn := by
    have whole := complete.whole goesOn
    rw [← region_append reader.buffer lower upper] at whole
    exact whole.of_append
  unended := complete.unended

/-- The first late line in the complete part of the buffer is the first line that is not cleared,
and it is complete. -/
theorem CompleteUpTo.late_line {reader : SeekingReader} {place stop : Nat}
    (complete : CompleteUpTo reader place stop) {line : List UInt8} {lines : List (List UInt8)}
    (first : segments (region reader.buffer place stop) = line :: lines) :
    ∃ lines, segments (region reader.buffer place reader.buffer.size) = line :: lines ∧
      (line.getLast? = some newline ∨ (reader.isAtEnd = true ∧ lines = [])) := by
  cases atEnd : reader.isAtEnd with
  | true =>
    rw [complete.full atEnd] at first
    exact ⟨lines, first, (ended_or_last first).imp_right fun last => ⟨rfl, last⟩⟩
  | false =>
    have ended : line.getLast? = some newline := by
      rcases ended_or_last first with ended | rfl
      · exact ended
      · have same : region reader.buffer place stop = line := by
          rw [← flatten_segments (region reader.buffer place stop), first]
          simp
        rcases complete.whole atEnd with empty | ended
        · simp [empty, segments] at first
        · rwa [same] at ended
    refine ⟨segments (lines.flatten ++ region reader.buffer stop reader.buffer.size), ?_,
      .inl ended⟩
    rw [← region_append reader.buffer complete.forwards complete.bound]
    exact segments_append_of_ended first ended _

theorem Clears.lines {reader : SeekingReader} {stop : Nat}
    (complete : CompleteUpTo reader reader.cleared stop) (goesOn : reader.lateFound = false) :
    let cleared := clearLines reader.dateOf reader.window.finish reader.buffer stop reader.cleared
    Clears reader { reader with cleared := cleared.1, lateFound := cleared.2 } := by
  obtain ⟨forwards, bound, front, back, found⟩ :=
    clearLines_eq reader.dateOf reader.window.finish complete.forwards complete.bound
  have timely (ignores : IgnoresNewline reader.dateOf) := le_of_takeWhile ignores front
  revert forwards bound front back found timely
  generalize clearLines reader.dateOf reader.window.finish reader.buffer stop reader.cleared = cleared
  obtain ⟨place, isFound⟩ := cleared
  intro forwards bound front back found timely
  dsimp only at *
  cases isFound with
  | false =>
    -- with no late line all complete lines are cleared, as they are without a look at each
    have none_late : ∀ line ∈ segments (region reader.buffer reader.cleared stop),
        (!isLate reader.dateOf reader.window.finish line) = true := by
      simpa using found.symm
    have all : place = stop := by
      have empty : region reader.buffer place stop = [] := by
        rw [back, List.dropWhile_eq_nil_iff.2 none_late, List.flatten_nil]
      have := length_region place complete.bound
      rw [empty, List.length_nil] at this
      omega
    subst all
    simpa [goesOn] using Clears.all complete goesOn fun ignores _ => timely ignores
  | true =>
    obtain ⟨line, lines, left⟩ : ∃ line lines, (segments (region reader.buffer reader.cleared
        stop)).dropWhile (!isLate reader.dateOf reader.window.finish ·) = line :: lines := by
      refine List.exists_cons_of_ne_nil fun empty => ?_
      have none_late := List.dropWhile_eq_nil_iff.1 empty
      simp only [Bool.not_eq_true'] at none_late
      obtain ⟨line, among, late⟩ := List.any_eq_true.1 found.symm
      simp [none_late line among] at late
    have late : isLate reader.dateOf reader.window.finish line = true := by
      have first := List.head?_dropWhile_not (!isLate reader.dateOf reader.window.finish ·)
        (segments (region reader.buffer reader.cleared stop))
      simpa [left] using first
    -- the cut before the late line cuts the bytes there
    obtain ⟨_, back_lines, whole⟩ := segments_cut (List.takeWhile_append_dropWhile
      (p := (!isLate reader.dateOf reader.window.finish ·))).symm
    rw [← back, left] at back_lines
    rw [← front, left] at whole
    obtain ⟨others, first, ended⟩ := (complete.later forwards bound).late_line back_lines
    exact {
      same := rfl
      forwards
      bound := Nat.le_trans bound complete.bound
      whole := .inl (whole (List.cons_ne_nil _ _))
      rest := by simp
      late := fun _ => ⟨line, others, first, late, ended⟩
      timely := fun ignores _ => timely ignores }

/-- Clearing goes on to the end of the complete lines, or stops before the first late one. -/
theorem clear_spec {reader : SeekingReader} {scanned : Nat} (order : reader.cleared ≤ scanned)
    (bound : scanned ≤ reader.buffer.size)
    (searched : newline ∉ region reader.buffer reader.cleared scanned)
    (goesOn : reader.lateFound = false) : Clears reader (reader.clear scanned) := by
  have complete := completeEnd_spec order bound searched
  unfold clear
  rw [if_neg (by simp [goesOn])]
  dsimp only
  split
  · rename_i unmoved
    have unmoved : reader.completeEnd reader.cleared scanned = reader.cleared := by
      simpa using unmoved
    have all := Clears.all complete goesOn (by simp [unmoved])
    rwa [unmoved] at all
  · split
    · exact Clears.lines complete goesOn
    · -- the last date is not late, so none is
      rename_i timely
      refine Clears.all complete goesOn fun _ ordered d member => ?_
      rw [lastDate_eq _ complete.bound] at timely
      cases last : (dates reader.dateOf (region reader.buffer reader.cleared
          (reader.completeEnd reader.cleared scanned))).getLast? with
      | none => simp [List.getLast?_eq_none_iff.1 last] at member
      | some latest =>
        rw [last, Option.any_some, decide_eq_true_eq, Time.DateTime.not_lt] at timely
        exact Time.DateTime.le_trans (Time.DateTime.le_of_getLast? ordered last member) timely

end LogQuery.SeekingReader

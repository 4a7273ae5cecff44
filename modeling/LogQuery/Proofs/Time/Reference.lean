import LogQuery.Proofs.Time.Calendar
import LogQuery.Proofs.Time.Clock
import LogQuery.Proofs.Time.Order
import LogQuery.Proofs.Time.WindowSpec

/-! Which instant a clock time refers to, and the windows that are counted from it.

The present is taken to lie outside a leap second, and so does every clock time with a second of at
most 59. Instants are then told apart by their nanoseconds.
-/

set_option autoImplicit false

namespace LogQuery.Time

variable {now t : DateTime} {reference : String} {hour minute second : Nat}

/-- The instant, up to the present, at which a second of the day last began on clocks that go with
the present. -/
structure LastShowing (now : DateTime) (second : Nat) (t : DateTime) : Prop where
  offset : t.offset = now.offset
  shown : t.localSecondOfDay = second
  whole : t.nano.val = 0
  past : t ≤ now
  recent : now < t.add (secondsPerDay * nanosPerSecond)
  latest : ∀ other : DateTime, other.offset = now.offset → other.localSecondOfDay = second →
    other.nano.val = 0 → other ≤ now → other ≤ t

/-! ### Clock times -/

theorem ofLocal?_localDate {nano : Fin 2000000000}
    (found : DateTime.ofLocal? now.localDate second nano now.offset = some t) :
    t = ⟨now.localSeconds / secondsPerDay * secondsPerDay + second - now.offset, nano,
      now.offset⟩ := by
  rw [DateTime.ofLocal?, DateTime.localDate, Date.toDays_ofDays] at found
  exact (Option.some_inj.1 (Option.ite_none_right_eq_some.1 found).2).symm

theorem lt_iff_seconds (plain : now.isLeap = false) (whole : t.nano.val = 0) :
    now < t ↔ now.seconds < t.seconds := by
  have nano := DateTime.nano_lt plain
  rw [DateTime.lt_def, DateTime.position, DateTime.position]
  omega

theorem lastShowing_of_seconds (plain : now.isLeap = false) (inDay : second < secondsPerDay)
    (offset : t.offset = now.offset) (whole : t.nano.val = 0) (day : Int)
    (wall : t.localSeconds = day * secondsPerDay + second) (past : t.seconds ≤ now.seconds)
    (recent : now.seconds < t.seconds + secondsPerDay) : LastShowing now second t where
  offset := offset
  shown := by
    rw [DateTime.localSecondOfDay, wall]
    simp only [secondsPerDay] at inDay ⊢
    omega
  whole := whole
  past := DateTime.not_lt.1 fun later => absurd ((lt_iff_seconds plain whole).1 later) (by omega)
  recent := by
    rw [DateTime.add_seconds whole, lt_iff_seconds plain]
    · exact recent
    · exact whole
  latest := by
    intro other sameOffset sameShown otherWhole otherPast
    have still := DateTime.isLeap_of_nano_eq_zero whole
    rw [← DateTime.not_lt, lt_iff_seconds plain otherWhole] at otherPast
    rw [← DateTime.not_lt, lt_iff_seconds still otherWhole]
    -- a whole number of days lies between the two
    rw [DateTime.localSecondOfDay, DateTime.localSeconds, sameOffset] at sameShown
    rw [DateTime.localSeconds, offset] at wall
    simp only [secondsPerDay] at recent sameShown wall
    omega

/-- The second on the present date is taken back by a day if it is still to come. -/
theorem lastShowing_of_date {date : DateTime} (plain : now.isLeap = false)
    (inDay : second < secondsPerDay)
    (found : DateTime.ofLocal? now.localDate second 0 now.offset = some date)
    (moved : (if now < date then date.sub? (secondsPerDay * nanosPerSecond) else some date) =
      some t) :
    LastShowing now second t := by
  have known := ofLocal?_localDate found
  have whole : date.nano.val = 0 := by rw [known]; rfl
  have offset : date.offset = now.offset := by rw [known]
  have wall : date.localSeconds = now.localSeconds / secondsPerDay * secondsPerDay + second := by
    rw [DateTime.localSeconds, known]
    exact Int.sub_add_cancel _ _
  -- the second and the present are on the same date, and so less than a day apart
  have near : now.seconds - secondsPerDay < date.seconds ∧
      date.seconds < now.seconds + secondsPerDay := by
    rw [DateTime.localSeconds, DateTime.localSeconds] at wall
    simp only [secondsPerDay] at wall inDay ⊢
    omega
  split at moved
  · next later =>
    obtain ⟨rfl, -⟩ := DateTime.sub?_eq_some_iff.1 moved
    rw [lt_iff_seconds plain whole] at later
    rw [DateTime.sub_seconds whole]
    refine lastShowing_of_seconds plain inDay ?_ ?_ (now.localSeconds / secondsPerDay - 1) ?_ ?_ ?_
    · exact offset
    · exact whole
    · rw [DateTime.localSeconds] at wall ⊢
      simp only [secondsPerDay] at wall ⊢
      omega
    · exact Int.sub_right_le_of_le_add (Int.le_of_lt near.2)
    · rwa [Int.sub_add_cancel]
  · next past =>
    cases moved
    rw [lt_iff_seconds plain whole, Int.not_lt] at past
    exact lastShowing_of_seconds plain inDay offset whole _ wall past
      (Int.lt_add_of_sub_right_lt near.1)

theorem exists_of_parseReference (found : parseReference reference now = .ok t) :
    ∃ clock date, readClock? reference.toList = some clock ∧
      DateTime.ofLocal? now.localDate clock.1 clock.2 now.offset = some date ∧
      (if now < date then date.sub? (secondsPerDay * nanosPerSecond) else some date) = some t := by
  unfold parseReference at found
  dsimp only at found
  split at found
  · next known =>
    cases found
    obtain ⟨clock, read, dated⟩ := Option.bind_eq_some_iff.1 known
    obtain ⟨date, known, moved⟩ := Option.bind_eq_some_iff.1 dated
    exact ⟨clock, date, read, known, moved⟩
  · cases found

theorem inCalendar_of_parseReference (found : parseReference reference now = .ok t) :
    t.inCalendar = true := by
  obtain ⟨clock, date, -, known, moved⟩ := exists_of_parseReference found
  split at moved
  · exact (DateTime.sub?_eq_some_iff.1 moved).2
  · cases moved
    unfold DateTime.ofLocal? at known
    dsimp only at known
    split at known
    · next within => cases known; exact within
    · cases known

theorem lastShowing_of_parseReference (plain : now.isLeap = false)
    (shows : ShowsClock hour minute second reference.toList) (ordinary : second ≤ 59)
    (found : parseReference reference now = .ok t) :
    LastShowing now (hour * 3600 + minute * 60 + second) t := by
  have whole : toNano (if second = 60 then nanosPerSecond else 0) = 0 := by
    rw [if_neg (by omega)]
    rfl
  have inDay : hour * 3600 + minute * 60 + second < secondsPerDay := by
    have := shows.bounds
    rw [secondsPerDay]
    omega
  obtain ⟨clock, date, read, known, moved⟩ := exists_of_parseReference found
  rw [shows.read, Option.some_inj, whole, Nat.min_eq_left ordinary] at read
  subst read
  exact lastShowing_of_date plain inDay known moved

/-! ### Windows -/

section

variable {front : List Char} {parts minus plus : List (List Char)} {d : Duration}
  {length other : Option Duration} {window : Window}

/-- The part in front of the signs is empty, or a clock time outside leap seconds. -/
def IsOrdinary (front : List Char) : Prop :=
  front = [] ∨ ∃ hour minute second, second ≤ 59 ∧ ShowsClock hour minute second front

theorem past_of_refersTo (plain : now.isLeap = false) (ordinary : IsOrdinary front)
    (refers : RefersTo now front t) : t.isLeap = false ∧ t ≤ now := by
  obtain ⟨_, rfl⟩ | ⟨written, found⟩ := refers
  · exact ⟨plain, DateTime.le_refl t⟩
  · obtain ⟨hour, minute, second, ordinary, shows⟩ := ordinary.resolve_left written
    rw [← String.toList_ofList (l := front)] at shows
    have last := lastShowing_of_parseReference plain shows ordinary found
    exact ⟨DateTime.isLeap_of_nano_eq_zero last.whole, last.past⟩

theorem parseDuration_nonneg {text : String} (read : parseDuration text = .ok d) : 0 ≤ d := by
  unfold parseDuration at read
  dsimp only at read
  split at read
  · split at read
    · cases read
    · cases read
      exact le_min (Int.natCast_nonneg _) (Int.natCast_nonneg _)
  · cases read

theorem Says.nonneg (spoken : Says parts (some d)) : 0 ≤ d := by
  cases spoken with
  | length _ read => exact parseDuration_nonneg read

theorem Says.unique (spoken : Says parts length) (saysOther : Says parts other) :
    length = other := by
  cases spoken with
  | nothing none_written =>
    cases saysOther with
    | nothing => rfl
    | length one_written => rw [none_written] at one_written; cases one_written
  | length one_written read =>
    cases saysOther with
    | nothing none_written => rw [none_written] at one_written; cases one_written
    | length one_written' read' =>
      cases one_written.symm.trans one_written'
      cases read.symm.trans read'
      rfl

theorem Says.back {start : DateTime} (spoken : Says parts length) (plain : t.isLeap = false)
    (moves : length.elim (some t) t.sub? = some start) : start.isLeap = false ∧ start ≤ t := by
  cases length with
  | none =>
    cases moves
    exact ⟨plain, DateTime.le_refl t⟩
  | some d =>
    obtain ⟨rfl, -⟩ := DateTime.sub?_eq_some_iff.1 moves
    obtain ⟨moved, nanos⟩ := DateTime.nanos_sub plain d
    refine ⟨moved, (DateTime.le_iff_nanos moved plain).2 ?_⟩
    rw [nanos]
    exact Int.sub_le_self _ spoken.nonneg

theorem Says.forth (spoken : Says parts (some d)) (plain : t.isLeap = false) :
    t ≤ t.add d ∧ (t.add d).since t = d := by
  obtain ⟨moved, nanos⟩ := DateTime.nanos_add plain d
  rw [DateTime.le_iff_nanos plain moved, DateTime.since_eq moved plain, nanos]
  exact ⟨Int.le_add_of_nonneg_right spoken.nonneg, add_sub_cancel_left ..⟩

theorem Means.inCalendar (within : now.inCalendar = true)
    (means : Means now front minus plus window) :
    window.start.inCalendar = true ∧ window.finish.inCalendar = true := by
  obtain ⟨t, back, length, refers, -, -, start, finish⟩ := means
  have reference : t.inCalendar = true := by
    obtain ⟨_, rfl⟩ | ⟨_, found⟩ := refers
    · exact within
    · exact inCalendar_of_parseReference found
  constructor
  · cases back with
    | none => cases start; exact reference
    | some d => exact (DateTime.sub?_eq_some_iff.1 start).2
  · cases length with
    | none => exact Option.some_inj.1 finish ▸ within
    | some d => exact (DateTime.add?_eq_some_iff.1 finish).2

theorem Means.ends (plain : now.isLeap = false) (ordinary : IsOrdinary front)
    (means : Means now front minus plus window) :
    window.start ≤ now ∧ window.start ≤ window.finish ∧
      (Says plus none → window.finish = now) ∧
      ∀ d, Says plus (some d) → window.finish.since window.start = d := by
  obtain ⟨t, back, length, refers, saysMinus, saysPlus, start, finish⟩ := means
  obtain ⟨plainTime, past⟩ := past_of_refersTo plain ordinary refers
  obtain ⟨plainStart, before⟩ := saysMinus.back plainTime start
  have startPast := DateTime.le_trans before past
  cases length with
  | none =>
    have finish : now = window.finish := Option.some_inj.1 finish
    refine ⟨startPast, finish ▸ startPast, fun _ => finish.symm, fun d spoken => ?_⟩
    cases saysPlus.unique spoken
  | some d =>
    obtain ⟨after, distance⟩ := saysPlus.forth plainStart
    rw [(DateTime.add?_eq_some_iff.1 finish).1]
    refine ⟨startPast, after, fun spoken => ?_, fun other spoken => ?_⟩
    · cases saysPlus.unique spoken
    · cases saysPlus.unique spoken
      exact distance

end

/-- A clock time that is accepted refers to the last time up to now at which clocks showed it. So no
specification with such a time, or with none, is refused for the order of its ends: its window
begins no later than now, and it ends now, or as far behind its start as it says. If the calendar
has the present, it has both ends. -/
theorem reference_past (plain : now.isLeap = false) :
    (∀ reference t, parseReference reference now = .ok t →
      (∃ hour minute second, ShowsClock hour minute second reference.toList) ∧
      ∀ hour minute second, ShowsClock hour minute second reference.toList → second ≤ 59 →
        LastShowing now (hour * 3600 + minute * 60 + second) t) ∧
    ∀ (spec : String) (front : List Char) (signed : List (Char × List Char)) (window : Window),
      IsCut (Unicode.trim spec.toList) front signed → IsOrdinary front →
      let minus := (behind '-' signed).getLast?.toList
      let plus := (behind '+' signed).getLast?.toList
      (Window.parse spec now = .ok window ↔ Means now front minus plus window) ∧
      (Window.parse spec now = .ok window →
        window.start ≤ now ∧ (Says plus none → window.finish = now) ∧
        (∀ d, Says plus (some d) → window.finish.since window.start = d) ∧
        (now.inCalendar = true →
          window.start.inCalendar = true ∧ window.finish.inCalendar = true)) := by
  constructor
  · intro reference t found
    constructor
    · obtain ⟨_, _, read, _⟩ := exists_of_parseReference found
      exact shows_of_readClock? read
    · intro hour minute second shows ordinary
      exact lastShowing_of_parseReference plain shows ordinary found
  · intro spec front signed window cut ordinary minus plus
    have accepted : Window.parse spec now = .ok window ↔ Means now front minus plus window :=
      (parse_eq_ok_iff cut).trans ⟨And.left, fun means => ⟨means, (means.ends plain ordinary).2.1⟩⟩
    refine ⟨accepted, fun parsed => ?_⟩
    have means := accepted.1 parsed
    obtain ⟨past, _, untilNow, asLong⟩ := means.ends plain ordinary
    exact ⟨past, untilNow, asLong, fun within => means.inCalendar within⟩

def newYear : DateTime := ⟨1483228800, toNano 500000000, 0⟩

theorem reference_lastYear :
    newYear.isLeap = false ∧
      parseReference "23:59:59" newYear = .ok ⟨1483228799, toNano 0, 0⟩ ∧
      LastShowing newYear 86399 ⟨1483228799, toNano 0, 0⟩ ∧
      Window.parse "23:59:59+2s" newYear =
        .ok ⟨⟨1483228799, toNano 0, 0⟩, ⟨1483228801, toNano 0, 0⟩⟩ := by
  have plain : newYear.isLeap = false := rfl
  have shows : ShowsClock 23 59 59 "23:59:59".toList :=
    .long (by decide) (by decide) (by decide) (writesTwo_digits Nat.two_pos (by decide) (by decide))
      (writesTwo_digits Nat.two_pos (by decide) (by decide))
      (writesTwo_digits Nat.two_pos (by decide) (by decide))
  have cut : IsCut (Unicode.trim "23:59:59+2s".toList) "23:59:59".toList [('+', "2s".toList)] :=
    isCut_splitAtSigns _
  obtain ⟨reference, window⟩ := reference_past plain
  have found : parseReference "23:59:59" newYear = .ok ⟨1483228799, toNano 0, 0⟩ := rfl
  refine ⟨plain, found, (reference _ _ found).2 23 59 59 shows (by decide), ?_⟩
  refine (window _ _ _ _ cut (.inr ⟨23, 59, 59, by decide, shows⟩)).1.2
    ⟨⟨1483228799, toNano 0, 0⟩, none, some 2000000000, ?_, ?_, ?_, rfl, rfl⟩
  · exact .inr ⟨List.cons_ne_nil _ _, found⟩
  · exact .nothing rfl
  · exact .length rfl rfl

end LogQuery.Time

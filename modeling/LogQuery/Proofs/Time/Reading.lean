import LogQuery.Proofs.Time.Parts

/-! What the fields of a format read from the parts of a written datetime.

Each part is read in front of whatever follows it, so that the parts of a format are put together by
rewriting from the left.
-/

set_option autoImplicit false

namespace LogQuery.Time

open Text (Stops)
open Unicode (trimStart)

/-! ### Numbers -/

theorem readTwo_digits {least most count n : Nat} {rest : List Char} (pos : 0 < count)
    (few : count ≤ 2) (small : n < Nat.pow 10 count) (lower : least ≤ n) (upper : n ≤ most)
    (ends : count = 2 ∨ Stops Char.isDigit rest) :
    readTwo least most (digits count n ++ rest) = some (n, rest) := by
  rw [readTwo, trimStart_digits pos, readNumber_digits pos small few ends, Option.filter_some_pos]
  simp [lower, upper]

theorem readTwo_padded {least most n : Nat} (rest : List Char) (lower : least ≤ n)
    (upper : n ≤ most) (two : most < 100) :
    readTwo least most (digits 2 n ++ rest) = some (n, rest) :=
  readTwo_digits Nat.two_pos (Nat.le_refl 2) (show n < 100 by omega) lower upper (.inl rfl)

theorem readYear_digits {n : Nat} (small : n < 10000) (rest : List Char) :
    readYear (digits 4 n ++ rest) = some ((n : Int), rest) := by
  have read : readNumber 4 (digits 4 n ++ rest) = some (n, rest) :=
    readNumber_digits (by decide) small (Nat.le_refl 4) (.inl rfl)
  obtain ⟨c, word, written⟩ := List.exists_cons_of_ne_nil (digits_ne_nil (by decide : 0 < 4) n)
  have digit : c.isDigit = true := isDigit_of_mem_digits c (written ▸ List.mem_cons_self)
  rw [readYear, trimStart_digits (by decide)]
  rw [written, List.cons_append] at read ⊢
  split
  · next same => exact absurd (List.cons.inj same).1 (ne_of_isDigit digit (by decide))
  · next same => exact absurd (List.cons.inj same).1 (ne_of_isDigit digit (by decide))
  · rw [read]
    rfl

/-! ### Month names -/

theorem readMonthName_stamp (stamp : Stamp) (rest : List Char) :
    readMonthName (stamp.monthText ++ rest) = some (stamp.date.month, rest) := by
  obtain ⟨lower, upper⟩ := stamp.month_bounds
  rw [Stamp.monthText]
  generalize stamp.date.month = month at lower upper
  interval_cases month <;> rfl

/-! ### Fractions and offsets -/

theorem readFraction_text (fraction : Fraction) {rest : List Char}
    (stops : Stops Char.isDigit rest) :
    readFraction ('.' :: digits fraction.count fraction.value ++ rest) =
      some (some fraction.nanos, rest) := by
  have taken : takeDigits 9 (digits fraction.count fraction.value ++ rest) =
      (digits fraction.count fraction.value, rest) :=
    takeDigits_run isDigit_of_mem_digits (by simpa using fraction.count_le) (.inr stops)
  have behind : rest.dropWhile Char.isDigit = rest := Text.dropWhile_of_stops stops
  rw [List.cons_append, readFraction, taken, Option.map_eq_some_iff]
  refine ⟨fraction.value, readDigits?_written fraction.count_pos fraction.value_lt, ?_⟩
  rw [behind, length_digits, Fraction.nanos]

theorem digitValue?_digitChar {n : Nat} (small : n < 10) :
    Text.digitValue? (Nat.digitChar n) = some n := by
  rw [Text.digitValue?, Nat.isDigit_digitChar, if_pos (decide_eq_true small)]
  exact congrArg some (Nat.toNat_digitChar_sub_48_of_lt_ten small)

theorem readPair_digits {most n : Nat} (rest : List Char) (small : n < 100)
    (tens : n / 10 ≤ most) : readPair most (digits 2 n ++ rest) = some (n, rest) := by
  have written : digits 2 n = [Nat.digitChar (n / 10), Nat.digitChar (n % 10)] := by
    rw [digits, digits, digits, Nat.mod_eq_of_lt (by omega)]
    rfl
  have tens_digit : Text.digitValue? (Nat.digitChar (n / 10)) = some (n / 10) :=
    digitValue?_digitChar (by omega)
  have ones_digit : Text.digitValue? (Nat.digitChar (n % 10)) = some (n % 10) :=
    digitValue?_digitChar (by omega)
  have value : n / 10 * 10 + n % 10 = n := Nat.div_add_mod' n 10
  simp [written, readPair, tens_digit, ones_digit, tens, value]

theorem readOffset_text (offset : Offset) (rest : List Char) :
    readOffset ⟨false, false⟩ (offset.text false ++ rest) = some (offset.seconds, rest) := by
  have hours (text : List Char) :
      readPair 9 (digits 2 offset.hours ++ text) = some (offset.hours, text) :=
    readPair_digits text (by have := offset.hours_lt; omega) (by have := offset.hours_lt; omega)
  have minutes : readPair 5 (digits 2 offset.minutes ++ rest) = some (offset.minutes, rest) :=
    readPair_digits rest (by have := offset.minutes_lt; omega)
      (by have := offset.minutes_lt; omega)
  have unspaced : (digits 2 offset.minutes ++ rest).dropWhile
      (fun c => c == ':' || Unicode.isBlank c) = digits 2 offset.minutes ++ rest := by
    refine Text.dropWhile_of_stops (stops_digits ?_ Nat.two_pos _ _)
    intro c digit
    rw [not_isBlank_of_isDigit digit, Bool.or_false, beq_eq_false_iff_ne]
    exact ne_of_isDigit digit (by decide)
  cases west : offset.west <;>
    simp [Offset.text, Offset.sign, Offset.seconds, readOffset, readSign, hours, minutes, unspaced,
      west]

/-! ### Fields in turn -/

namespace Reading

open LineFormat (readDate readSpace readClock readMonthDay readDayMonth)

variable {fields : List Field} {reading : Reading}

theorem go_blanks {text : List Char} (stops : Stops Unicode.isBlank text) :
    ofText.go (.blanks :: fields) reading (' ' :: text) = ofText.go fields reading text := by
  have blank : ∀ c ∈ [' '], Unicode.isBlank c = true := List.forall_mem_singleton.2 (by decide)
  have trimmed : trimStart (' ' :: text) = text := Text.trimStart_blank blank stops
  rw [ofText.go, Field.read, trimmed]

theorem go_date (stamp : Stamp) (rest : List Char) :
    ofText.go (readDate ++ fields) reading (stamp.dateText ++ rest) =
      ofText.go fields { reading with
        year := some stamp.date.year
        month := some stamp.date.month
        day := some stamp.date.day } rest := by
  obtain ⟨whole, four⟩ := stamp.year_toNat
  obtain ⟨month_lower, month_upper⟩ := stamp.month_bounds
  obtain ⟨day_lower, day_upper⟩ := stamp.day_bounds
  have month (text : List Char) : readTwo 1 12 (digits 2 stamp.date.month ++ text) =
      some (stamp.date.month, text) := readTwo_padded text month_lower month_upper (by decide)
  have day : readTwo 1 31 (digits 2 stamp.date.day ++ rest) = some (stamp.date.day, rest) :=
    readTwo_padded rest day_lower day_upper (by decide)
  simp [readDate, Stamp.dateText, Stamp.yearText, ofText.go, Field.read, readText,
    readYear_digits four, whole, month, day]

theorem go_clock (stamp : Stamp) (rest : List Char) :
    ofText.go (readClock ++ fields) reading (stamp.clockText ++ rest) =
      ofText.go fields { reading with
        hour := some stamp.hour
        minute := some stamp.minute
        second := some stamp.second } rest := by
  have hour (text : List Char) : readTwo 0 23 (digits 2 stamp.hour ++ text) =
      some (stamp.hour, text) :=
    readTwo_padded text (Nat.zero_le _) (Nat.le_of_lt_succ stamp.hour_lt) (by decide)
  have minute (text : List Char) : readTwo 0 59 (digits 2 stamp.minute ++ text) =
      some (stamp.minute, text) :=
    readTwo_padded text (Nat.zero_le _) (Nat.le_of_lt_succ stamp.minute_lt) (by decide)
  have second : readTwo 0 60 (digits 2 stamp.second ++ rest) = some (stamp.second, rest) :=
    readTwo_padded rest (Nat.zero_le _) (Nat.le_of_lt stamp.second_lt) (by decide)
  simp [readClock, Stamp.clockText, ofText.go, Field.read, readText, hour, minute, second]

theorem go_fraction (fraction : Fraction) {rest : List Char} (stops : Stops Char.isDigit rest) :
    ofText.go (.fraction :: fields) reading (fraction.pointed.text ++ rest) =
      ofText.go fields { reading with nano := some fraction.nanos } rest := by
  have read := readFraction_text fraction stops
  have written : fraction.pointed.text = '.' :: digits fraction.count fraction.value := rfl
  rw [ofText.go, Field.read, written, read]
  rfl

theorem go_offset (offset : Offset) :
    ofText.go LineFormat.readOffset reading (offset.text false) =
      some { reading with offset := some offset.seconds } := by
  have unspaced : trimStart (offset.text false) = offset.text false :=
    Text.trimStart_of_stops (offset.stops_sign (by decide) _)
  have read := readOffset_text offset []
  rw [List.append_nil] at read
  simp [LineFormat.readOffset, ofText.go, Field.read, unspaced, read]

theorem go_year (stamp : Stamp) (rest : List Char) :
    ofText.go (.year :: fields) reading (stamp.yearText ++ rest) =
      ofText.go fields { reading with year := some stamp.date.year } rest := by
  obtain ⟨whole, four⟩ := stamp.year_toNat
  rw [ofText.go, Field.read, Stamp.yearText, readYear_digits four, whole]
  rfl

theorem go_month (stamp : Stamp) (rest : List Char) :
    ofText.go (.monthName :: fields) reading (stamp.monthText ++ rest) =
      ofText.go fields { reading with month := some stamp.date.month } rest := by
  rw [ofText.go, Field.read, readMonthName_stamp]
  rfl

theorem go_day (stamp : Stamp) (spelling : DaySpelling) {rest : List Char}
    (stops : Stops Char.isDigit rest) :
    ofText.go (.day :: fields) reading (spelling.unspaced.text stamp.date.day ++ rest) =
      ofText.go fields { reading with day := some stamp.date.day } rest := by
  obtain ⟨lower, upper⟩ := stamp.day_bounds
  have two : readTwo 1 31 (digits 2 stamp.date.day ++ rest) = some (stamp.date.day, rest) :=
    readTwo_padded rest lower upper (by decide)
  have read : readTwo 1 31 (spelling.unspaced.text stamp.date.day ++ rest) =
      some (stamp.date.day, rest) := by
    cases spelling with
    | padded => exact two
    | short | spaced =>
      simp only [DaySpelling.unspaced, DaySpelling.text]
      split
      · next small => exact readTwo_digits Nat.one_pos (by decide) small lower upper (.inr stops)
      · exact two
  rw [ofText.go, Field.read, read]
  rfl

end Reading

/-! ### Datetimes -/

def Stamp.reading (stamp : Stamp) (writing : Writing) : Reading where
  year := some stamp.date.year
  month := some stamp.date.month
  day := some stamp.date.day
  hour := some stamp.hour
  minute := some stamp.minute
  second := some stamp.second
  nano := writing.fraction?.map Fraction.nanos
  offset := writing.offset?.map Offset.seconds

namespace Reading

open LineFormat (readDate readSpace readClock readMonthDay readDayMonth)

variable {fields : List Field} {reading : Reading}

theorem go_dated_letter (stamp : Stamp) (ending : List Char) :
    ofText.go (readDate ++ [.text ['T']] ++ readClock ++ fields) {}
        (Writing.dated stamp 'T' ending) = ofText.go fields (stamp.reading .iso) ending := by
  simp only [Writing.dated, List.append_assoc, List.cons_append]
  rw [go_date]
  exact go_clock stamp ending

theorem go_dated_space (stamp : Stamp) (ending : List Char) :
    ofText.go (readDate ++ readSpace ++ readClock ++ fields) {}
        (Writing.dated stamp ' ' ending) = ofText.go fields (stamp.reading .plain) ending := by
  simp only [Writing.dated, List.append_assoc, List.cons_append]
  rw [go_date]
  exact (go_blanks (stamp.stops_clock ending)).trans (go_clock stamp ending)

theorem go_last_fraction (fraction : Fraction) :
    ofText.go [.fraction] reading fraction.pointed.text =
      some { reading with nano := some fraction.nanos } := by
  rw [← List.append_nil fraction.pointed.text, go_fraction fraction (Text.stops_nil _)]
  rfl

theorem go_fraction_offset (fraction : Fraction) (offset : Offset) :
    ofText.go (.fraction :: LineFormat.readOffset) reading
        (fraction.pointed.text ++ offset.text false) =
      some { reading with nano := some fraction.nanos, offset := some offset.seconds } := by
  have stops : Stops Char.isDigit (offset.text false) := offset.stops_sign (by decide) _
  rw [go_fraction fraction stops, go_offset]

theorem go_yearLast (stamp : Stamp) (spelling : DaySpelling) :
    ofText.go (readMonthDay ++ readSpace ++ readClock ++ readSpace ++ [.year]) {}
        (Writing.yearLast stamp spelling.unspaced) = some (stamp.reading .plain) := by
  simp only [Writing.yearLast, List.append_assoc, List.cons_append]
  show ofText.go (.monthName :: .blanks :: .day :: .blanks :: (readClock ++ [.blanks, .year])) {}
    _ = _
  rw [go_month, go_blanks (stamp.stops_day _ (fun _ => not_isBlank_of_isDigit) spelling),
    go_day stamp spelling (Text.stops_cons (by decide) _), go_blanks (stamp.stops_clock _),
    go_clock, ← List.append_nil stamp.yearText, go_blanks (stamp.stops_year []), go_year]
  rfl

theorem go_mail (stamp : Stamp) (spelling : DaySpelling) (offset : Offset) :
    ofText.go (readDayMonth ++ readSpace ++ [.year] ++ readSpace ++ readClock ++ readSpace ++
        LineFormat.readOffset) {}
      (spelling.unspaced.text stamp.date.day ++ ' ' :: stamp.monthText ++ ' ' :: stamp.yearText ++
        ' ' :: stamp.clockText ++ ' ' :: offset.text false) =
      some { stamp.reading .plain with offset := some offset.seconds } := by
  have stops : Stops Unicode.isBlank (offset.text false) := offset.stops_sign (by decide) _
  simp only [List.append_assoc, List.cons_append]
  show ofText.go (.day :: .blanks :: .monthName :: .blanks :: .year :: .blanks ::
    (readClock ++ .blanks :: LineFormat.readOffset)) {} _ = _
  rw [go_day stamp spelling (Text.stops_cons (by decide) _),
    go_blanks (stamp.stops_month _ (by decide)), go_month, go_blanks (stamp.stops_year _), go_year,
    go_blanks (stamp.stops_clock _), go_clock, go_blanks stops, go_offset]
  rfl

theorem ofText_tidied (writing : Writing) (stamp : Stamp) :
    ofText writing.format.fields (writing.tidied.body stamp) = some (stamp.reading writing) := by
  cases writing with
  | isoFractionSpaceOffset fraction offset colon =>
    show ofText.go (readDate ++ [.text ['T']] ++ readClock ++ (.fraction :: LineFormat.readOffset))
        {} (Writing.dated stamp 'T' (fraction.pointed.text ++ offset.text false)) = _
    rw [go_dated_letter, go_fraction_offset]
    rfl
  | isoFractionOffset fraction spelling =>
    show ofText.go (readDate ++ [.text ['T']] ++ readClock ++ (.fraction :: LineFormat.readOffset))
        {} (Writing.dated stamp 'T' (fraction.pointed.text ++ spelling.offset.text false)) = _
    rw [go_dated_letter, go_fraction_offset]
    rfl
  | isoOffset spelling =>
    show ofText.go (readDate ++ [.text ['T']] ++ readClock ++ LineFormat.readOffset) {}
        (Writing.dated stamp 'T' (spelling.offset.text false)) = _
    rw [go_dated_letter, go_offset]
    rfl
  | isoFraction fraction =>
    show ofText.go (readDate ++ [.text ['T']] ++ readClock ++ [.fraction]) {}
        (Writing.dated stamp 'T' fraction.pointed.text) = _
    rw [go_dated_letter, go_last_fraction]
    rfl
  | iso =>
    show ofText.go (readDate ++ [.text ['T']] ++ readClock ++ []) {}
        (Writing.dated stamp 'T' []) = _
    rw [go_dated_letter]
    rfl
  | plainFractionOffset fraction spaced offset colon =>
    show ofText.go (readDate ++ readSpace ++ readClock ++ (.fraction :: LineFormat.readOffset)) {}
        (Writing.dated stamp ' ' (fraction.pointed.text ++ offset.text false)) = _
    rw [go_dated_space, go_fraction_offset]
    rfl
  | plainFraction fraction =>
    show ofText.go (readDate ++ readSpace ++ readClock ++ [.fraction]) {}
        (Writing.dated stamp ' ' fraction.pointed.text) = _
    rw [go_dated_space, go_last_fraction]
    rfl
  | plainOffset spaced offset colon =>
    show ofText.go (readDate ++ readSpace ++ readClock ++ LineFormat.readOffset) {}
        (Writing.dated stamp ' ' (offset.text false)) = _
    rw [go_dated_space, go_offset]
    rfl
  | plain =>
    show ofText.go (readDate ++ readSpace ++ readClock ++ []) {} (Writing.dated stamp ' ' []) = _
    rw [go_dated_space]
    rfl
  | monthFirst spelling => exact go_yearLast stamp spelling
  | weekdayFirst weekday spelling => exact go_yearLast stamp spelling
  | mail weekday comma padded zone =>
    cases padded with
    | true => exact go_mail stamp .padded zone.offset
    | false => exact go_mail stamp .short zone.offset

end Reading

/-! ### Instants -/

theorem Stamp.clock_reading (stamp : Stamp) (writing : Writing) :
    (stamp.reading writing).clock? = some (stamp.secondOfDay, toNano writing.nanos) := by
  have second_lt := stamp.second_lt
  have no_leap : (stamp.second == 60) = false := by
    rw [beq_eq_false_iff_ne]
    omega
  have whole : min stamp.second 59 = stamp.second := Nat.min_eq_left (Nat.le_of_lt_succ second_lt)
  simp [Reading.clock?, reading, no_leap, whole, secondOfDay, Writing.nanos]

theorem Stamp.date_reading (stamp : Stamp) (writing : Writing) :
    (stamp.reading writing).date? = some stamp.date := by
  simp [Reading.date?, reading, stamp.date_valid]

/-- The clock shows the stamp at some instant, whatever the offset. -/
theorem Stamp.exists_instant (stamp : Stamp) (writing : Writing) {offset : Int}
    (inRange : DateTime.offsetInRange offset = true) :
    ∃ t, (stamp.reading writing).inOffset? offset = some t ∧ stamp.IsShown t ∧
      t.nano.val = writing.nanos ∧ t.offset = offset := by
  obtain ⟨day_lower, day_upper⟩ := Date.toDays_within stamp.date_valid
    ((by decide : (0 : Int) ≤ 1000).trans stamp.year_ge)
    (stamp.year_le.trans (by decide))
  have clock := stamp.secondOfDay_lt
  rw [secondsPerDay] at clock
  rw [DateTime.offsetInRange, Bool.and_eq_true, decide_eq_true_eq, decide_eq_true_eq] at inRange
  -- years of four digits are so far inside the calendar that no offset leads out of it
  have counted : firstDay ≤ (stamp.date.toDays * 86400 + stamp.secondOfDay - offset) / 86400 ∧
      (stamp.date.toDays * 86400 + stamp.secondOfDay - offset) / 86400 ≤ lastDay := by
    have first : firstDay = -96465292 := by decide
    have last : lastDay = 95026236 := by decide
    omega
  refine ⟨⟨stamp.date.toDays * 86400 + stamp.secondOfDay - offset, toNano writing.nanos, offset⟩,
    ?_, ⟨?_, ?_, ?_⟩, ?_, rfl⟩
  · simp [Reading.inOffset?, stamp.date_reading, stamp.clock_reading, DateTime.ofLocal?,
      DateTime.inCalendar, secondsPerDay, counted]
  · exact Int.sub_add_cancel _ _
  · have day : (stamp.date.toDays * 86400 + stamp.secondOfDay - offset + offset) / 86400 =
        stamp.date.toDays := by omega
    rw [DateTime.localDate, DateTime.localSeconds, secondsPerDay]
    exact (congrArg Date.ofDays day).trans (Date.ofDays_toDays stamp.date_valid)
  · rw [DateTime.localSecondOfDay, DateTime.localSeconds, secondsPerDay]
    show ((stamp.date.toDays * 86400 + stamp.secondOfDay - offset + offset) % 86400).toNat = _
    omega
  · exact Nat.mod_eq_of_lt (writing.nanos_lt.trans (by decide))

end LogQuery.Time

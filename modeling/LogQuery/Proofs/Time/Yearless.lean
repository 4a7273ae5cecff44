import LogQuery.Proofs.Time.Calendar
import LogQuery.Proofs.Time.Order
import LogQuery.Proofs.Time.Recognizer
import LogQuery.Proofs.Time.YearInFront

/-! Datetimes without a year.

The fields of such a datetime denote an instant in each year that has the date. Found is the latest
one that is not after now, of the years that are tried: the recognizer's year of now and four
before. For a datetime without an offset of its own no later year would do. One with its own offset
may be of a year that has begun there and not here, which is not tried. -/

set_option autoImplicit false

namespace LogQuery.Time

def Field.isOffset : Field → Bool
  | .offset _ => true
  | _ => false

theorem LineFormat.fields_yearless {format : LineFormat} (member : format ∈ all)
    (yearless : format.hasYear = false) :
    Reading.BeginsDate format.fields ∧ .year ∉ format.fields ∧
      format.fields.any Field.isOffset = format.hasOffset := by
  have plain : ∀ format ∈ all, format.hasYear = false →
      .year ∉ format.fields ∧ format.fields.any Field.isOffset = format.hasOffset := by decide
  refine ⟨?_, plain format member yearless⟩
  simp only [all, List.mem_cons, List.not_mem_nil, or_false] at member
  rcases member with rfl | rfl | rfl | rfl | rfl | rfl | rfl | rfl | rfl | rfl | rfl | rfl | rfl |
    rfl | rfl | rfl | rfl
  iterate 12 cases yearless
  · exact .day _
  · exact .day _
  · exact .month _
  · exact .month _
  · exact .month _

/-! ### The instants of a reading -/

namespace Reading

variable {reading result : Reading} {offset : Int} {year : Int} {t : DateTime}

theorem isSome_offset_read {field : Field} {text rest : List Char}
    (read : field.read reading text = some (result, rest)) :
    result.offset.isSome = (reading.offset.isSome || field.isOffset) := by
  cases field with
  | blanks =>
    cases read
    exact (Bool.or_false _).symm
  | offset style =>
    obtain ⟨_, _, same⟩ := Option.map_eq_some_iff.1 read
    rw [← (Prod.mk.inj same).1]
    exact (Bool.or_true _).symm
  | _ =>
    obtain ⟨_, _, same⟩ := Option.map_eq_some_iff.1 read
    rw [← (Prod.mk.inj same).1]
    exact (Bool.or_false _).symm

theorem isSome_offset_go {fields : List Field} {text : List Char}
    (read : ofText.go fields reading text = some result) :
    result.offset.isSome = (reading.offset.isSome || fields.any Field.isOffset) := by
  induction fields generalizing reading text with
  | nil =>
    cases text with
    | nil =>
      cases read
      simp
    | cons c text => cases read
  | cons field fields ih =>
    rw [ofText.go] at read
    split at read
    · next read_field =>
      rw [ih read, isSome_offset_read read_field, List.any_cons, Bool.or_assoc]
    · cases read

theorem isSome_offset {fields : List Field} {value : List Char}
    (read : ofText fields value = some reading) :
    reading.offset.isSome = fields.any Field.isOffset :=
  isSome_offset_go read

theorem date?_inYear {date : Date} (found : (reading.inYear year).date? = some date) :
    ∃ month day, reading.month = some month ∧ reading.day = some day ∧ date = ⟨year, month, day⟩ ∧
      date.isValid = true := by
  simp only [date?, inYear, Option.bind_eq_bind, Option.bind_some, Option.bind_eq_some_iff] at found
  obtain ⟨month, isMonth, day, isDay, found⟩ := found
  split at found
  · next valid =>
    cases found
    exact ⟨month, day, isMonth, isDay, rfl, valid⟩
  · cases found

theorem inOffset?_inYear (found : (reading.inYear year).inOffset? offset = some t) :
    ∃ month day second nano, reading.month = some month ∧ reading.day = some day ∧
      reading.clock? = some (second, nano) ∧ Date.isValid ⟨year, month, day⟩ = true ∧
      t = ⟨Date.toDays ⟨year, month, day⟩ * secondsPerDay + second - offset, nano, offset⟩ := by
  simp only [inOffset?, Option.bind_eq_bind, Option.bind_eq_some_iff] at found
  obtain ⟨date, isDate, ⟨second, nano⟩, isClock, found⟩ := found
  obtain ⟨month, day, isMonth, isDay, rfl, valid⟩ := date?_inYear isDate
  rw [DateTime.ofLocal?] at found
  dsimp only at found
  split at found
  · cases found
    exact ⟨month, day, second, nano, isMonth, isDay, isClock, valid, rfl⟩
  · cases found

end Reading

namespace Recognizer

variable {r : Recognizer} {reading : Reading} {year later : Int} {t t' : DateTime}

def occurrence (r : Recognizer) (reading : Reading) (year : Int) : Option DateTime :=
  if reading.offset.isSome then (reading.inYear year).dateTime?
  else (reading.inYear year).inOffset? r.offset

theorem occurrence_eq_some (denotes : r.occurrence reading year = some t) :
    ∃ month day second nano, reading.month = some month ∧ reading.day = some day ∧
      reading.clock? = some (second, nano) ∧ Date.isValid ⟨year, month, day⟩ = true ∧
      t = ⟨Date.toDays ⟨year, month, day⟩ * secondsPerDay + second - reading.offset.getD r.offset,
        nano, reading.offset.getD r.offset⟩ := by
  rw [occurrence] at denotes
  cases own : reading.offset with
  | none =>
    rw [own] at denotes
    exact Reading.inOffset?_inYear denotes
  | some offset =>
    have carried : (reading.inYear year).offset = some offset := own
    rw [own, Option.isSome_some, if_pos rfl, Reading.dateTime?, carried, Option.bind_eq_bind,
      Option.bind_some] at denotes
    split at denotes
    · exact Reading.inOffset?_inYear denotes
    · cases denotes

/-- In a later year a reading denotes a later instant. -/
theorem occurrence_lt (earlier : year < later) (denotes : r.occurrence reading year = some t)
    (denotes' : r.occurrence reading later = some t') : t < t' := by
  obtain ⟨month, day, second, nano, isMonth, isDay, isClock, _, rfl⟩ := occurrence_eq_some denotes
  obtain ⟨month', day', second', nano', isMonth', isDay', isClock', _, rfl⟩ :=
    occurrence_eq_some denotes'
  cases isMonth.symm.trans isMonth'
  cases isDay.symm.trans isDay'
  cases isClock.symm.trans isClock'
  -- clock and offset are the same, so the days decide
  have days := Date.toDays_lt month day earlier
  simp only [DateTime.lt_def, DateTime.position, secondsPerDay]
  omega

def latestYear (r : Recognizer) : Int := (r.now.withOffset r.offset).localDate.year

theorem le_latestYear (offsetless : reading.offset = none)
    (denotes : r.occurrence reading year = some t) (past : t ≤ r.now) : year ≤ r.latestYear := by
  obtain ⟨month, day, second, nano, _, _, _, valid, rfl⟩ := occurrence_eq_some denotes
  refine Date.le_year_ofDays valid ?_
  rw [offsetless, Option.getD_none, DateTime.le_def, DateTime.position, DateTime.position] at past
  have := nano.isLt
  have := r.now.nano.isLt
  simp only [DateTime.localSeconds, DateTime.withOffset, secondsPerDay] at past ⊢
  omega

/-! ### The years that are tried -/

theorem candidateYears_eq (r : Recognizer) : r.candidateYears =
    [r.latestYear, r.latestYear - 1, r.latestYear - 2, r.latestYear - 3, r.latestYear - 4] := rfl

theorem mem_candidateYears :
    year ∈ r.candidateYears ↔ r.latestYear - 4 ≤ year ∧ year ≤ r.latestYear := by
  rw [candidateYears_eq]
  simp only [List.mem_cons, List.not_mem_nil, or_false]
  omega

theorem candidateYears_descend (r : Recognizer) : r.candidateYears.Pairwise (· > ·) := by
  rw [candidateYears_eq]
  generalize r.latestYear = latest
  simp

theorem findSome?_descending {f : Int → Option DateTime} {years : List Int}
    (descending : years.Pairwise (· > ·)) (member : year ∈ years) (found : f year = some t) :
    ∃ first ∈ years, year ≤ first ∧ years.findSome? f = f first ∧ (f first).isSome = true := by
  induction years with
  | nil => cases member
  | cons first years ih =>
    obtain ⟨later, descending⟩ := List.pairwise_cons.1 descending
    cases here : f first with
    | some t' =>
      have upper : year ≤ first := by
        rcases List.mem_cons.1 member with rfl | behind
        · exact Int.le_refl _
        · exact Int.le_of_lt (later year behind)
      refine ⟨first, List.mem_cons_self, upper, ?_, by rw [here]; rfl⟩
      rw [List.findSome?_cons, here]
    | none =>
      have behind : year ∈ years := (List.mem_cons.1 member).resolve_left fun same => by
        rw [← same, found] at here
        cases here
      obtain ⟨next, among, upper, same, isSome⟩ := ih descending behind
      refine ⟨next, List.mem_cons_of_mem _ among, upper, ?_, isSome⟩
      rw [List.findSome?_cons, here]
      exact same

/-- An instant that a reading may be found to denote: one not after now, of a year of at most four
digits, not more than four before that of now, nor after it unless in the recognizer's offset. -/
structure Occurs (r : Recognizer) (reading : Reading) (year : Int) (t : DateTime) : Prop where
  denotes : r.occurrence reading year = some t
  past : t ≤ r.now
  recent : r.latestYear - 4 ≤ year
  short : year ≤ 9999
  begun : reading.offset = none ∨ year ≤ r.latestYear

theorem Occurs.isCandidate (occurs : r.Occurs reading year t) : year ∈ r.candidateYears := by
  have upper : year ≤ r.latestYear := occurs.begun.elim
    (fun offsetless => le_latestYear offsetless occurs.denotes occurs.past) id
  exact mem_candidateYears.2 ⟨occurs.recent, upper⟩

/-- The first years of the calendar have six digits at most. -/
theorem lower_of_occurrence (denotes : r.occurrence reading year = some t) : -1000000 < year := by
  obtain ⟨month, day, _, _, _, _, _, valid, _⟩ := occurrence_eq_some denotes
  simp only [Date.isValid, yearInRange, Bool.and_eq_true, decide_eq_true_eq] at valid
  omega

variable {fields : List Field} {hasOffset : Bool} {value : List Char}

theorem read_inYear (begins : Reading.BeginsDate fields) (undated : .year ∉ fields)
    (carries : hasOffset = reading.offset.isSome)
    (reads : Reading.ofText fields value = some reading) (lower : -1000000 < year)
    (short : year ≤ 9999) :
    r.read (.year :: .blanks :: fields) hasOffset ((toString year).toList ++ ' ' :: value) =
      r.occurrence reading year := by
  rw [read, Reading.ofText_inYear begins undated reads lower short, carries]
  rfl

def foundIn (r : Recognizer) (fields : List Field) (hasOffset : Bool) (value : List Char)
    (year : Int) : Option DateTime :=
  (r.read (.year :: .blanks :: fields) hasOffset ((toString year).toList ++ ' ' :: value)).filter
    (· ≤ r.now)

theorem readYearless_eq : r.readYearless fields hasOffset value =
    r.candidateYears.findSome? (r.foundIn fields hasOffset value) := rfl

theorem foundIn_eq_some : r.foundIn fields hasOffset value year = some t ↔
    r.read (.year :: .blanks :: fields) hasOffset ((toString year).toList ++ ' ' :: value) = some t ∧
      t ≤ r.now := by
  rw [foundIn, Option.filter_eq_some_iff, decide_eq_true_eq]

theorem readYearless_past (found : r.readYearless fields hasOffset value = some t) :
    t ≤ r.now := by
  obtain ⟨_, _, found⟩ := List.exists_of_findSome?_eq_some found
  exact (foundIn_eq_some.1 found).2

/-- Of the instants that a reading may be found to denote, the latest is found. -/
theorem Occurs.readYearless (occurs : r.Occurs reading year t)
    (begins : Reading.BeginsDate fields) (undated : .year ∉ fields)
    (carries : hasOffset = reading.offset.isSome)
    (reads : Reading.ofText fields value = some reading) :
    ∃ found first, r.readYearless fields hasOffset value = some found ∧
      r.Occurs reading first found ∧ t ≤ found := by
  have lower := lower_of_occurrence occurs.denotes
  have here : r.foundIn fields hasOffset value year = some t := by
    rw [foundIn_eq_some, read_inYear begins undated carries reads lower occurs.short]
    exact ⟨occurs.denotes, occurs.past⟩
  obtain ⟨first, tried, later, same, isSome⟩ :=
    findSome?_descending r.candidateYears_descend occurs.isCandidate here
  obtain ⟨found, isFound⟩ := Option.isSome_iff_exists.1 isSome
  obtain ⟨isRead, past⟩ := foundIn_eq_some.1 isFound
  -- a year of five digits may be tried before, but nothing is read with it
  have short : first ≤ 9999 := by
    by_contra long
    rw [read, Reading.ofText_longYear begins reads (by omega)] at isRead
    cases isRead
  have denotes : r.occurrence reading first = some found := by
    rw [← read_inYear begins undated carries reads (by omega) short]
    exact isRead
  obtain ⟨recent, begun⟩ := mem_candidateYears.1 tried
  refine ⟨found, first, readYearless_eq.trans (same.trans isFound),
    ⟨denotes, past, recent, short, .inr begun⟩, ?_⟩
  rcases Int.lt_or_eq_of_le later with earlier | rfl
  · exact Int.le_of_lt (occurrence_lt earlier occurs.denotes denotes)
  · rw [Option.some.inj (occurs.denotes.symm.trans denotes)]
    exact DateTime.le_refl found

/-! ### Lines without a year -/

/-- A line that no format with a year dates, with the first format without one whose shape it has
and what that format reads. -/
structure IsYearless (r : Recognizer) (line : List Char) (format : LineFormat) (reading : Reading) :
    Prop where
  undated : ∀ other ∈ LineFormat.all, other.hasYear = true → r.inFormat line other = none
  yearless : format.hasYear = false
  first : ∃ earlier later, LineFormat.all = earlier ++ format :: later ∧
    ∀ other ∈ earlier, other.hasYear = false → other.value? line = none
  reads : ∃ value, format.value? line = some value ∧
    Reading.ofText format.fields value = some reading

variable {line : List Char} {format : LineFormat}

theorem IsYearless.format_fields (isYearless : r.IsYearless line format reading) :
    Reading.BeginsDate format.fields ∧ .year ∉ format.fields ∧
      format.fields.any Field.isOffset = format.hasOffset := by
  obtain ⟨earlier, later, inOrder, _⟩ := isYearless.first
  have member : format ∈ LineFormat.all := inOrder ▸ List.mem_append_right _ List.mem_cons_self
  exact LineFormat.fields_yearless member isYearless.yearless

theorem IsYearless.ofText (isYearless : r.IsYearless line format reading) {value : List Char}
    (captures : format.value? line = some value) {found : DateTime}
    (isFound : r.readYearless format.fields format.hasOffset value = some found) :
    r.ofText line = some found := by
  obtain ⟨earlier, later, inOrder, first⟩ := isYearless.first
  have before : earlier.findSome? (r.inFormat line) = none := by
    rw [List.findSome?_eq_none_iff]
    intro other member
    cases dated : other.hasYear with
    | true => exact isYearless.undated other (inOrder ▸ List.mem_append_left _ member) dated
    | false => rw [inFormat, first other member dated]
  have own : r.inFormat line format = some found := by
    rw [inFormat, captures]
    simpa [isYearless.yearless] using isFound
  rw [Recognizer.ofText, inOrder, List.findSome?_append, before, List.findSome?_cons, own]
  rfl

theorem IsYearless.past (isYearless : r.IsYearless line format reading) {found : DateTime}
    (isFound : r.ofText line = some found) : found ≤ r.now := by
  obtain ⟨other, member, isFound⟩ := List.exists_of_findSome?_eq_some isFound
  cases dated : other.hasYear with
  | true =>
    rw [isYearless.undated other member dated] at isFound
    cases isFound
  | false =>
    rw [inFormat] at isFound
    split at isFound
    · rw [dated] at isFound
      exact readYearless_past isFound
    · cases isFound

/-- A datetime without a year is never found to be after now. It is found at the latest instant not
after now that its fields denote in a year from the fourth before that of now on, if there is one,
up to the year 9999 and, if the line has its own offset, up to the year of now in the recognizer's.
-/
theorem ofText_yearless (isYearless : r.IsYearless line format reading) :
    (∀ found, r.ofText line = some found → found ≤ r.now) ∧
      ∀ year t, r.Occurs reading year t →
        ∃ foundYear found, r.ofText line = some found ∧ r.Occurs reading foundYear found ∧
          ∀ otherYear other, r.Occurs reading otherYear other → other ≤ found := by
  refine ⟨fun _ => isYearless.past, fun year t occurs => ?_⟩
  obtain ⟨value, captures, reads⟩ := isYearless.reads
  obtain ⟨begins, undated, carries⟩ := isYearless.format_fields
  have carries := carries.symm.trans (Reading.isSome_offset reads).symm
  obtain ⟨found, foundYear, isFound, foundOccurs, _⟩ :=
    occurs.readYearless begins undated carries reads
  refine ⟨foundYear, found, isYearless.ofText captures isFound, foundOccurs,
    fun otherYear other otherOccurs => ?_⟩
  -- what is found does not depend on the year from which it is known that something is
  obtain ⟨same, _, isSame, _, le⟩ := otherOccurs.readYearless begins undated carries reads
  rwa [Option.some.inj (isFound.symm.trans isSame)]

def inMarch : Recognizer := ⟨0, ⟨1488326400, toNano 0, 0⟩⟩

theorem ofText_pastLeapDay :
    let line := "Feb 29 12:00:00 host msg".toList
    let format := LineFormat.all.get ⟨16, by decide⟩
    let reading : Reading :=
      { month := some 2, day := some 29, hour := some 12, minute := some 0, second := some 0 }
    inMarch.IsYearless line format reading ∧ inMarch.Occurs reading 2016 ⟨1456747200, 0, 0⟩ ∧
      ∃ year found, inMarch.ofText line = some found ∧ inMarch.Occurs reading year found ∧
        ∀ other t, inMarch.Occurs reading other t → t ≤ found := by
  intro line format reading
  have isYearless : inMarch.IsYearless line format reading :=
    ⟨by decide +kernel, rfl, ⟨LineFormat.all.take 16, [], rfl, by decide +kernel⟩,
      ⟨"Feb 29 12:00:00".toList, by decide +kernel, by decide +kernel⟩⟩
  have occurs : inMarch.Occurs reading 2016 ⟨1456747200, 0, 0⟩ :=
    ⟨by decide +kernel, by decide, by decide +kernel, by decide, .inl rfl⟩
  exact ⟨isYearless, occurs, (ofText_yearless isYearless).2 2016 _ occurs⟩

def newYearsEve : Recognizer := ⟨0, ⟨1483227000, toNano 0, 0⟩⟩

/-- East of UTC the year 2017 has begun, and its first minutes are not after now. A line from there
is dated a year too early. -/
theorem newYear_lost :
    let line := "Sun, 01 Jan 00:15:00 +0100 msg".toList
    let format := LineFormat.all.get ⟨13, by decide⟩
    let reading : Reading :=
      { month := some 1, day := some 1, hour := some 0, minute := some 15, second := some 0
        offset := some 3600 }
    let t : DateTime := ⟨1483226100, 0, 3600⟩
    newYearsEve.IsYearless line format reading ∧ newYearsEve.occurrence reading 2017 = some t ∧
      newYearsEve.latestYear - 4 ≤ 2017 ∧ t ≤ newYearsEve.now ∧
      ∃ found, newYearsEve.ofText line = some found ∧ found < t := by
  intro line format reading t
  have isYearless : newYearsEve.IsYearless line format reading :=
    ⟨by decide +kernel, rfl, ⟨LineFormat.all.take 13, LineFormat.all.drop 14, rfl,
      by decide +kernel⟩, ⟨"01 Jan 00:15:00 +0100".toList, by decide +kernel, by decide +kernel⟩⟩
  exact ⟨isYearless, by decide +kernel, by decide +kernel, by decide, ⟨1451603700, 0, 3600⟩,
    by decide +kernel, by decide⟩

end Recognizer

end LogQuery.Time

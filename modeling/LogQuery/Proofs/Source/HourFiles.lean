import LogQuery.Proofs.Files.Path
import LogQuery.Proofs.Source.Hourly
import LogQuery.Proofs.Text.Numeral
import LogQuery.Proofs.Time.Calendar

/-! The hours of a window, and the files that hold them.

An hour is told from the path of its file, since a date is told from its text and a day from its
date.
-/

set_option autoImplicit false

namespace LogQuery

open Text (Stops stops_cons append_inj_of_stops zeroPadded stops_zeroPadded zeroPadded_append_inj)

namespace Time.DateTime

/-! ### Texts of dates -/

def yearSign (year : Int) : List Char :=
  if year < 0 then ['-'] else if 9999 < year then ['+'] else []

theorem toList_yearText (year : Int) :
    (yearText year).toList = yearSign year ++ (zeroPadded 4 year.natAbs).toList := by
  have minus : "-".toList = ['-'] := rfl
  have plus : "+".toList = ['+'] := rfl
  rw [yearText, yearSign]
  by_cases negative : year < 0
  · rw [if_neg (by simp; omega), if_pos negative, if_pos negative, String.toList_append, minus]
  by_cases long : 9999 < year
  · rw [if_neg (by simp; omega), if_neg negative, if_neg negative, if_pos long,
      String.toList_append, plus]
  · have same : year.toNat = year.natAbs := by omega
    rw [if_pos (by simp; omega), if_neg negative, if_neg long, same, List.nil_append]

theorem yearSign_eq_iff (year : Int) : yearSign year = ['-'] ↔ year < 0 := by
  unfold yearSign
  split
  · simp [*]
  · split <;> simp [*]

theorem not_isDigit_of_mem_yearSign {year : Int} : ∀ c ∈ yearSign year, (!c.isDigit) = true := by
  rw [← List.all_eq_true, yearSign]
  split
  · rfl
  · split <;> rfl

/-- A year is told where something other than a digit stands behind it. -/
theorem yearText_append_inj {year other : Int} {rest behind : List Char}
    (stops : Stops Char.isDigit rest) (stopsBehind : Stops Char.isDigit behind)
    (same : (yearText year).toList ++ rest = (yearText other).toList ++ behind) :
    year = other ∧ rest = behind := by
  rw [toList_yearText, toList_yearText, List.append_assoc, List.append_assoc] at same
  obtain ⟨sign, digits⟩ := append_inj_of_stops not_isDigit_of_mem_yearSign (stops_zeroPadded _)
    not_isDigit_of_mem_yearSign (stops_zeroPadded _) same
  obtain ⟨size, back⟩ := zeroPadded_append_inj stops stopsBehind digits
  have negative := yearSign_eq_iff year
  rw [sign, yearSign_eq_iff] at negative
  exact ⟨by omega, back⟩

theorem toString_eq (text : String) : toString text = text := rfl

theorem toList_dateText (date : Date) :
    (dateText date).toList = (yearText date.year).toList ++
      '-' :: ((zeroPadded 2 date.month).toList ++ '-' :: (zeroPadded 2 date.day).toList) := by
  have dash : "-".toList = ['-'] := rfl
  simp only [dateText, toString_eq, String.toList_append, List.append_assoc, dash,
    List.cons_append, List.nil_append]

theorem dateText_append_inj {date other : Date} {rest behind : List Char}
    (stops : Stops Char.isDigit rest) (stopsBehind : Stops Char.isDigit behind)
    (same : (dateText date).toList ++ rest = (dateText other).toList ++ behind) :
    date = other ∧ rest = behind := by
  simp only [toList_dateText, List.append_assoc, List.cons_append] at same
  obtain ⟨year, same⟩ := yearText_append_inj (stops_cons rfl _) (stops_cons rfl _) same
  obtain ⟨month, same⟩ := zeroPadded_append_inj (stops_cons rfl _) (stops_cons rfl _)
    (List.cons.inj same).2
  obtain ⟨day, back⟩ := zeroPadded_append_inj stops stopsBehind (List.cons.inj same).2
  refine ⟨?_, back⟩
  cases date
  cases other
  rw [Date.mk.injEq]
  exact ⟨year, month, day⟩

end Time.DateTime

namespace Hourly

open Time

/-! ### Paths of files -/

theorem toList_fileName (category : String) (t : DateTime) :
    (fileName category t).toList = category.toList ++ '-' ::
      ((DateTime.dateText t.localDate).toList ++ '_' :: '0' :: '0' :: '0' ::
        (zeroPadded 2 (t.localSecondOfDay / secondsPerHour)).toList) := by
  have dash : "-".toList = ['-'] := rfl
  have zeros : "_000".toList = ['_', '0', '0', '0'] := rfl
  simp only [fileName, DateTime.toString_eq, String.toList_append, List.append_assoc, dash, zeros,
    List.cons_append, List.nil_append]

theorem isAbsolute_fileName (category : String) (t other : DateTime) :
    Path.isAbsolute (fileName category t) = Path.isAbsolute (fileName category other) := by
  rw [Bool.eq_iff_iff, Path.isAbsolute_iff, Path.isAbsolute_iff, toList_fileName, toList_fileName]
  cases category.toList with
  | nil => rw [List.nil_append, List.nil_append, List.head?_cons, List.head?_cons]
  | cons c rest => rw [List.cons_append, List.cons_append, List.head?_cons, List.head?_cons]

/-- The hour of a file, by the clocks of the times that lie in it, is told from its path. -/
theorem filePath_inj {directory category : String} {t other : DateTime}
    (same : filePath directory category t = filePath directory category other) :
    t.localSeconds / secondsPerHour = other.localSeconds / secondsPerHour := by
  have names := congrArg String.toList (Path.join_inj (isAbsolute_fileName category t other) same)
  rw [toList_fileName, toList_fileName] at names
  have dated := (List.cons.inj (List.append_cancel_left names)).2
  obtain ⟨date, clock⟩ := DateTime.dateText_append_inj (stops_cons rfl _) (stops_cons rfl _) dated
  have days := congrArg Date.toDays date
  rw [DateTime.localDate, DateTime.localDate, Date.toDays_ofDays, Date.toDays_ofDays] at days
  simp only [List.cons.injEq, true_and] at clock
  have hour := congrArg (Nat.ofDigitChars 10 · 0) clock
  simp only [Text.ofDigitChars_zeroPadded] at hour
  simp only [DateTime.localSecondOfDay, secondsPerDay, secondsPerHour] at days hour ⊢
  omega

/-! ### The hours of a window -/

def oneHour : Duration := 3600000000000

structure BeginsHour (offset : Int) (t : DateTime) : Prop where
  clocks : t.offset = offset
  full : t.localSeconds % secondsPerHour = 0
  sharp : t.nano.val = 0

/-- Times an hour apart, from `hour` on, as long as they come before `stop`. -/
inductive CountsUp (stop : DateTime) : (hour : DateTime) → List DateTime → Prop where
  | done {hour : DateTime} : ¬ hour < stop → CountsUp stop hour []
  | next {hour : DateTime} {later : List DateTime} : hour < stop →
    CountsUp stop (hour.add oneHour) later → CountsUp stop hour (hour :: later)

variable {offset : Int}

theorem add_oneHour (offset hour : Int) :
    (hourStart offset hour).add oneHour = hourStart offset (hour + 1) := by
  -- an hour is whole seconds, and none begins within a leap second
  have seconds : Int.tdiv oneHour nanosPerSecond = 3600 := rfl
  have fraction : Int.tmod oneHour nanosPerSecond = 0 := rfl
  have ordinary : (hourStart offset hour).isLeap = false := rfl
  have carried : ((toNano 0).val + 0 : Int) / nanosPerSecond = 0 := rfl
  have nano : toNano (((toNano 0).val + 0 : Int) % nanosPerSecond).toNat = toNano 0 := rfl
  simp only [DateTime.add, seconds, fraction, ordinary, Bool.false_eq_true, if_false]
  simp only [hourStart, carried, nano, DateTime.mk.injEq, secondsPerHour, and_self, and_true]
  omega

theorem hourStart_lt_hourStart {hour other : Int} :
    hourStart offset hour < hourStart offset other ↔ hour < other := by
  rw [lt_hourStart, hourOf_hourStart]

theorem hourStart_lt_iff {hour : Int} {t : DateTime} (clocks : t.offset = offset) :
    hourStart offset hour < t ↔ hour < hourBehind t := by
  have zero : (toNano 0).val = 0 := rfl
  subst clocks
  simp only [hourBehind, IsWholeHour, hourFloor_eq, DateTime.lt_def, DateTime.position, hourStart,
    hourOf, secondsPerHour, zero]
  split <;> omega

theorem BeginsHour.eq_hourStart {t : DateTime} (begins : BeginsHour offset t) :
    t = hourStart offset (hourOf offset t) := by
  obtain ⟨rfl, full, sharp⟩ := begins
  have seconds : t.seconds = hourOf t.offset t * secondsPerHour - t.offset := by
    simp only [DateTime.localSeconds, hourOf, secondsPerHour] at full ⊢
    omega
  have nano : t.nano = toNano 0 := Fin.ext sharp
  rw [hourStart, ← seconds, ← nano]

theorem beginsHour_hourStart (offset hour : Int) : BeginsHour offset (hourStart offset hour) where
  clocks := rfl
  full := by
    simp only [DateTime.localSeconds, hourStart, secondsPerHour]
    omega
  sharp := rfl

theorem localSeconds_hourStart (offset hour : Int) :
    (hourStart offset hour).localSeconds / secondsPerHour = hour := hourOf_hourStart offset hour

def hoursUpTo (offset first behind : Int) : List DateTime :=
  (List.range (behind - first).toNat).map fun (i : Nat) => hourStart offset (first + i)

theorem mem_hoursUpTo {first behind : Int} {t : DateTime} : t ∈ hoursUpTo offset first behind ↔
    BeginsHour offset t ∧ first ≤ hourOf offset t ∧ hourOf offset t < behind := by
  rw [hoursUpTo, List.mem_map]
  constructor
  · rintro ⟨i, among, rfl⟩
    rw [List.mem_range] at among
    rw [hourOf_hourStart]
    exact ⟨beginsHour_hourStart offset _, by omega, by omega⟩
  · rintro ⟨begins, lower, upper⟩
    refine ⟨(hourOf offset t - first).toNat, List.mem_range.2 (by omega), ?_⟩
    have again : first + ((hourOf offset t - first).toNat : Int) = hourOf offset t := by omega
    rw [again, ← begins.eq_hourStart]

theorem hoursUpTo_nil {first behind : Int} (none_left : behind ≤ first) :
    hoursUpTo offset first behind = [] := by
  rw [hoursUpTo, Int.toNat_of_nonpos (by omega)]
  rfl

theorem hoursUpTo_cons {first behind : Int} (some_left : first < behind) :
    hoursUpTo offset first behind =
      hourStart offset first :: hoursUpTo offset (first + 1) behind := by
  obtain ⟨count, room⟩ : ∃ count : Nat, behind = first + 1 + count :=
    ⟨(behind - (first + 1)).toNat, by omega⟩
  have further : (behind - first).toNat = count + 1 := by omega
  have later : (behind - (first + 1)).toNat = count := by omega
  rw [hoursUpTo, hoursUpTo, further, later, List.range_succ_eq_map, List.map_cons, List.map_map]
  congr 1
  · simp
  · apply List.map_congr_left
    intro i _
    simp only [Function.comp_apply, Nat.succ_eq_add_one]
    congr 1
    omega

theorem countsUp_hoursUpTo (offset first behind : Int) :
    CountsUp (hourStart offset behind) (hourStart offset first)
      (hoursUpTo offset first behind) := by
  generalize room : (behind - first).toNat = count
  induction count generalizing first with
  | zero =>
    rw [hoursUpTo_nil (by omega)]
    refine .done ?_
    rw [hourStart_lt_hourStart]
    omega
  | succ count ih =>
    rw [hoursUpTo_cons (by omega)]
    refine .next (hourStart_lt_hourStart.2 (by omega)) ?_
    rw [add_oneHour]
    exact ih (first + 1) (by omega)

theorem CountsUp.isChain {stop hour : DateTime} {hours : List DateTime}
    (counts : CountsUp stop hour hours) :
    hours.IsChain fun before after => after = before.add oneHour := by
  induction counts with
  | done _ => exact .nil
  | next _ later ih =>
    cases later with
    | done _ => exact .singleton _
    | next _ _ => exact .cons_cons rfl ih

theorem pairwise_hoursUpTo (first behind : Int) :
    (hoursUpTo offset first behind).Pairwise fun before after => before < after ∧
      ∀ directory category : String,
        filePath directory category before ≠ filePath directory category after := by
  rw [hoursUpTo, List.pairwise_map]
  refine List.pairwise_lt_range.imp fun {i j} order => ?_
  refine ⟨hourStart_lt_hourStart.2 (by omega), fun directory category same => ?_⟩
  have hours := filePath_inj same
  rw [localSeconds_hourStart, localSeconds_hourStart] at hours
  omega

/-- The hours of a window whose ends are written in one offset are counted up from the one that it
starts in, as long as they come before its end rounded up to a whole hour. They are the hours that
have begun before the end of the window and are not over at its start, the earliest first and an
hour apart, and in a category each has a file of its own. -/
theorem hoursOf_counts {window : Window} (startsIn : window.start.offset = offset)
    (endsIn : window.finish.offset = offset) :
    CountsUp (hourCeiling window.finish) (hourFloor window.start) (hoursOf window) ∧
    (∀ hour, hour ∈ hoursOf window ↔
      BeginsHour offset hour ∧ hour < window.finish ∧ window.start < hour.add oneHour) ∧
    (hoursOf window).Pairwise (· < ·) ∧
    (hoursOf window).IsChain (fun before after => after = before.add oneHour) ∧
    ∀ directory category, ((hoursOf window).map (filePath directory category)).Nodup := by
  have hours : hoursOf window =
      hoursUpTo offset (hourOf offset window.start) (hourBehind window.finish) :=
    hoursOf_eq startsIn endsIn
  have counts := countsUp_hoursUpTo offset (hourOf offset window.start) (hourBehind window.finish)
  have apart := @pairwise_hoursUpTo offset (hourOf offset window.start) (hourBehind window.finish)
  rw [hourCeiling_eq, hourFloor_eq, startsIn, endsIn, hours]
  refine ⟨counts, fun hour => ?_, apart.imp And.left, counts.isChain, fun directory category => ?_⟩
  · rw [mem_hoursUpTo]
    refine and_congr_right fun begins => ?_
    rw [begins.eq_hourStart, add_oneHour, hourStart_lt_iff endsIn, lt_hourStart, hourOf_hourStart]
    omega
  · exact List.pairwise_map.2 (apart.imp fun both => both.2 directory category)

/-- Across the New Year, on clocks half an hour off and with an end an instant past the hour. -/
theorem hoursOf_newYear :
    let window : Window := ⟨⟨1483207200, toNano 0, 19800⟩, ⟨1483212600, toNano 1, 19800⟩⟩
    window.start < window.finish ∧
      CountsUp ⟨1483216200, toNano 0, 19800⟩ ⟨1483205400, toNano 0, 19800⟩ (hoursOf window) ∧
      (hoursOf window).map (filePath "scribe" "www") =
        ["scribe/www/www-2016-12-31_00023", "scribe/www/www-2017-01-01_00000",
          "scribe/www/www-2017-01-01_00001"] ∧
      ((hoursOf window).map (filePath "scribe" "www")).Nodup := by
  intro window
  obtain ⟨counts, -, -, -, apart⟩ := @hoursOf_counts 19800 window rfl rfl
  exact ⟨by decide, counts, by decide +kernel, apart "scribe" "www"⟩

end Hourly

end LogQuery

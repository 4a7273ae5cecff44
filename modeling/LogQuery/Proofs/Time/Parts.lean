import Mathlib.Tactic.IntervalCases
import LogQuery.Proofs.Time.Calendar
import LogQuery.Proofs.Time.Writing

/-! The parts of a written datetime: how large their numbers are, and the characters that they are
written with and begin with. -/

set_option autoImplicit false

namespace LogQuery.Time

open Text (Stops)

/-! ### Numbers -/

namespace Stamp

variable (stamp : Stamp)

theorem year_toNat : (stamp.date.year.toNat : Int) = stamp.date.year ∧
    stamp.date.year.toNat < 10000 := by
  have lower := stamp.year_ge
  have upper := stamp.year_le
  omega

theorem month_bounds : 1 ≤ stamp.date.month ∧ stamp.date.month ≤ 12 :=
  (Date.bounds_of_isValid stamp.date_valid).1

theorem day_bounds : 1 ≤ stamp.date.day ∧ stamp.date.day ≤ 31 := by
  obtain ⟨_, first, last⟩ := Date.bounds_of_isValid stamp.date_valid
  exact ⟨first, last.trans (daysInMonth_le _ _)⟩

theorem secondOfDay_lt : stamp.secondOfDay < secondsPerDay := by
  have hour_lt := stamp.hour_lt
  have minute_lt := stamp.minute_lt
  have second_lt := stamp.second_lt
  rw [secondOfDay, secondsPerDay]
  omega

end Stamp

theorem Fraction.nanos_lt (fraction : Fraction) : fraction.nanos < nanosPerSecond := by
  have scaled := Nat.mul_lt_mul_of_pos_right fraction.value_lt
    (Nat.pow_pos (Nat.succ_pos 9) : 0 < Nat.pow 10 (9 - fraction.count))
  have whole : Nat.pow 10 fraction.count * Nat.pow 10 (9 - fraction.count) = nanosPerSecond := by
    refine (Nat.pow_add 10 fraction.count (9 - fraction.count)).symm.trans ?_
    rw [Nat.add_sub_cancel' fraction.count_le]
    rfl
  exact whole ▸ scaled

theorem Writing.nanos_lt (writing : Writing) : writing.nanos < nanosPerSecond := by
  rw [nanos]
  cases writing.fraction? with
  | none => decide
  | some fraction => exact fraction.nanos_lt

theorem Offset.inRange_seconds (offset : Offset) :
    DateTime.offsetInRange offset.seconds = true := by
  have hours_lt := offset.hours_lt
  have minutes_lt := offset.minutes_lt
  have bounds : -86400 < offset.seconds ∧ offset.seconds < 86400 := by
    simp only [seconds]
    split <;> omega
  simp [DateTime.offsetInRange, bounds]

/-! ### Characters -/

section

variable {p : Char → Prop} (digit : ∀ c, c.isDigit = true → p c)

include digit

theorem forall_digits (count n : Nat) : ∀ c ∈ digits count n, p c :=
  fun c member => digit c (isDigit_of_mem_digits c member)

theorem Stamp.forall_date (stamp : Stamp) (dash : p '-') : ∀ c ∈ stamp.dateText, p c := by
  simp only [dateText, yearText, List.forall_mem_append, List.forall_mem_cons]
  exact ⟨⟨forall_digits digit _ _, dash, forall_digits digit _ _⟩, dash, forall_digits digit _ _⟩

theorem Stamp.forall_clock (stamp : Stamp) (colon : p ':') : ∀ c ∈ stamp.clockText, p c := by
  simp only [clockText, List.forall_mem_append, List.forall_mem_cons]
  exact ⟨⟨forall_digits digit _ _, colon, forall_digits digit _ _⟩, colon, forall_digits digit _ _⟩

theorem DaySpelling.forall_text (spelling : DaySpelling) (day : Nat) (space : p ' ') :
    ∀ c ∈ spelling.text day, p c := by
  cases spelling with
  | padded => exact forall_digits digit _ _
  | short =>
    rw [text]
    split <;> exact forall_digits digit _ _
  | spaced =>
    rw [text]
    split
    · exact List.forall_mem_cons.2 ⟨space, forall_digits digit _ _⟩
    · exact forall_digits digit _ _

theorem Offset.forall_text (offset : Offset) (signs : p '+' ∧ p '-') (colon : p ':')
    (withColon : Bool) : ∀ c ∈ offset.text withColon, p c := by
  have sign : p offset.sign := by
    rw [Offset.sign]
    split
    · exact signs.2
    · exact signs.1
  have between : ∀ c ∈ (if withColon then [':'] else []), p c := by
    cases withColon <;> simp [colon]
  exact List.forall_mem_append.2 ⟨List.forall_mem_append.2
    ⟨List.forall_mem_cons.2 ⟨sign, forall_digits digit _ _⟩, between⟩, forall_digits digit _ _⟩

end

namespace Stamp

variable (stamp : Stamp)

theorem exists_month : ∃ name ∈ monthNames, stamp.monthText = name.toList := by
  obtain ⟨lower, upper⟩ := stamp.month_bounds
  have listed : stamp.date.month - 1 < monthNames.length := by
    show stamp.date.month - 1 < 12
    omega
  refine ⟨monthNames[stamp.date.month - 1], List.getElem_mem listed, ?_⟩
  rw [monthText, List.getElem?_eq_getElem listed, Option.getD_some]

/-- What is true of the letters of all month names is true of this one's. -/
theorem forall_month {p : Char → Bool}
    (all : (monthNames.all fun name => name.toList.all p) = true) :
    ∀ c ∈ stamp.monthText, p c = true := by
  obtain ⟨name, listed, written⟩ := stamp.exists_month
  rw [written]
  exact List.all_eq_true.1 (List.all_eq_true.1 all name listed)

theorem filled_year : ∀ c ∈ stamp.yearText, Unicode.isBlank c = false :=
  forall_digits (fun _ => not_isBlank_of_isDigit) _ _

theorem filled_clock : ∀ c ∈ stamp.clockText, Unicode.isBlank c = false :=
  stamp.forall_clock (fun _ => not_isBlank_of_isDigit) (by decide)

theorem filled_month : ∀ c ∈ stamp.monthText, Unicode.isBlank c = false := by
  intro c member
  simpa using @forall_month stamp (fun c => !Unicode.isBlank c) (by decide) c member

end Stamp

theorem ZoneSpelling.forall_text (zone : ZoneSpelling) : ∀ c ∈ zone.text, c ≠ ',' ∧ c ≠ ' ' := by
  cases zone with
  | numeric offset =>
    exact offset.forall_text
      (fun c digit => ⟨ne_of_isDigit digit (by decide), ne_of_isDigit digit (by decide)⟩)
      (by decide) (by decide) false
  | named zone =>
    have listed : (zoneNames.all fun zone =>
        zone.1.toList.all fun c => c != ',' && c != ' ') = true := by decide
    intro c member
    simpa using List.all_eq_true.1 (List.all_eq_true.1 listed _ zone.listed) c member

/-! ### Beginnings -/

theorem stops_word {p : Char → Bool} {word : List Char} (all : ∀ c ∈ word, p c = false)
    (nonempty : word ≠ []) (rest : List Char) : Stops p (word ++ rest) := by
  obtain ⟨c, letters, rfl⟩ := List.exists_cons_of_ne_nil nonempty
  exact Text.stops_cons (all c List.mem_cons_self) _

theorem stops_name {p : Char → Bool} {names : List String} {name : String} (listed : name ∈ names)
    (others : (names.all fun name => name.toList.head?.any (!p ·)) = true) (rest : List Char) :
    Stops p (name.toList ++ rest) := by
  have other := List.all_eq_true.1 others name listed
  cases written : name.toList with
  | nil => simp [written] at other
  | cons c letters =>
    rw [written] at other
    exact Text.stops_cons (by simpa using other) _

namespace Stamp

variable (stamp : Stamp) (rest : List Char)

theorem stops_year : Stops Unicode.isBlank (stamp.yearText ++ rest) :=
  stops_word stamp.filled_year (digits_ne_nil (by decide) _) rest

theorem stops_clock : Stops Unicode.isBlank (stamp.clockText ++ rest) :=
  stops_word stamp.filled_clock (by simp [clockText]) rest

theorem stops_month {p : Char → Bool}
    (others : (monthNames.all fun name => name.toList.head?.any (!p ·)) = true) :
    Stops p (stamp.monthText ++ rest) := by
  obtain ⟨name, listed, written⟩ := stamp.exists_month
  rw [written]
  exact stops_name listed others rest

theorem stops_day {p : Char → Bool} (none_digit : ∀ c, c.isDigit = true → p c = false)
    (spelling : DaySpelling) : Stops p (spelling.unspaced.text stamp.date.day ++ rest) := by
  cases spelling with
  | padded => exact stops_digits none_digit Nat.two_pos _ rest
  | short | spaced =>
    simp only [DaySpelling.unspaced, DaySpelling.text]
    split
    · exact stops_digits none_digit Nat.one_pos _ rest
    · exact stops_digits none_digit Nat.two_pos _ rest

end Stamp

section

variable {p : Char → Bool} (signs : p '+' = false ∧ p '-' = false) (rest : List Char)

include signs

theorem Offset.stops_sign (offset : Offset) : Stops p (offset.sign :: rest) := by
  have sign : p offset.sign = false := by
    rw [Offset.sign]
    split
    · exact signs.2
    · exact signs.1
  exact Text.stops_cons sign rest

theorem OffsetSpelling.stops_text (spelling : OffsetSpelling) (zulu : p 'Z' = false) :
    Stops p (spelling.text ++ rest) := by
  cases spelling with
  | zulu => exact Text.stops_cons zulu _
  | numeric offset colon => exact offset.stops_sign signs _

theorem Offset.stops_spaced (offset : Offset) (space : p ' ' = false) (spaced colon : Bool) :
    Stops p (Writing.gap spaced ++ offset.text colon ++ rest) := by
  cases spaced with
  | true => exact Text.stops_cons space _
  | false => exact offset.stops_sign signs _

end

theorem IsMessage.stops_of_space {p : Char → Bool} (space : p ' ' = false) {tail : List Char}
    (message : IsMessage tail) : Stops p tail := by
  rcases message with rfl | ⟨c, rest, rfl, _⟩
  · exact Text.stops_nil p
  · exact Text.stops_cons space _

end LogQuery.Time

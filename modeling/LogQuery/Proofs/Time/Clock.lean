import LogQuery.Proofs.Time.Digits
import LogQuery.Time.WindowSpec

/-! The texts that show a time of day, such as `12:30` and ` 7:05:09`. -/

set_option autoImplicit false

namespace LogQuery.Time

open Text (Stops)

variable {hour minute second n least most : Nat} {text rest : List Char}

structure WritesTwo (n : Nat) (text : List Char) : Prop where
  written : ∃ gap digits, text = gap ++ digits ∧ (∀ c ∈ gap, Unicode.isBlank c = true) ∧
    digits ≠ [] ∧ digits.length ≤ 2 ∧ (∀ c ∈ digits, c.isDigit = true) ∧
    Nat.ofDigitChars 10 digits 0 = n

/-- Hours and minutes, and the seconds unless they are left out. Second 60 is a leap second. -/
inductive ShowsClock (hour minute : Nat) : Nat → List Char → Prop where
  | short {hours minutes : List Char} : hour < 24 → minute < 60 → WritesTwo hour hours →
      WritesTwo minute minutes → ShowsClock hour minute 0 (hours ++ ':' :: minutes)
  | long {second : Nat} {hours minutes seconds : List Char} : hour < 24 → minute < 60 →
      second ≤ 60 → WritesTwo hour hours → WritesTwo minute minutes → WritesTwo second seconds →
      ShowsClock hour minute second (hours ++ ':' :: (minutes ++ ':' :: seconds))

theorem ShowsClock.bounds (shows : ShowsClock hour minute second text) :
    hour < 24 ∧ minute < 60 ∧ second ≤ 60 := by
  cases shows with
  | short hour_lt minute_lt => exact ⟨hour_lt, minute_lt, Nat.zero_le _⟩
  | long hour_lt minute_lt second_le => exact ⟨hour_lt, minute_lt, second_le⟩

/-! ### Numbers of two digits -/

theorem writesTwo_digits {count : Nat} (pos : 0 < count) (few : count ≤ 2)
    (small : n < Nat.pow 10 count) : WritesTwo n (digits count n) where
  written := ⟨[], digits count n, rfl, List.forall_mem_nil _, digits_ne_nil pos n,
    (length_digits count n).symm ▸ few, isDigit_of_mem_digits, ofDigitChars_digits small⟩

theorem length_takeDigits_le (most : Nat) (text : List Char) :
    (takeDigits most text).1.length ≤ most := by
  induction text generalizing most with
  | nil => cases most <;> exact Nat.zero_le _
  | cons c text ih =>
    cases most with
    | zero => exact Nat.zero_le _
    | succ most =>
      rw [takeDigits]
      split
      · exact Nat.succ_le_succ (ih most)
      · exact Nat.zero_le _

theorem WritesTwo.read (writes : WritesTwo n text) (stops : Stops Char.isDigit rest)
    (lower : least ≤ n) (upper : n ≤ most) :
    readTwo least most (text ++ rest) = some (n, rest) := by
  obtain ⟨gap, digits, rfl, blank, some_digit, few, all, rfl⟩ := writes.written
  have visible : Stops Unicode.isBlank (digits ++ rest) := by
    obtain ⟨c, digits, rfl⟩ := List.exists_cons_of_ne_nil some_digit
    exact Text.stops_cons (not_isBlank_of_isDigit (all c List.mem_cons_self)) _
  rw [readTwo, List.append_assoc, Text.trimStart_blank blank visible, readNumber,
    takeDigits_run all few (.inr stops)]
  simp [Text.readDigits?_digits some_digit all, lower, upper]

theorem writesTwo_of_readTwo (read : readTwo least most text = some (n, rest)) :
    ∃ number, text = number ++ rest ∧ WritesTwo n number ∧ least ≤ n ∧ n ≤ most := by
  rw [readTwo, Option.filter_eq_some_iff, readNumber, Option.map_eq_some_iff] at read
  obtain ⟨⟨_, digits, same⟩, bounds⟩ := read
  obtain ⟨rfl, left⟩ := Prod.mk.inj same
  obtain ⟨some_digit, all, value⟩ := Text.readDigits?_eq_some_iff.1 digits
  obtain ⟨gap, blank, cut⟩ := Text.exists_run Unicode.isBlank text
  have taken := takeDigits_append 2 (Unicode.trimStart text)
  rw [left] at taken
  refine ⟨gap ++ (takeDigits 2 (Unicode.trimStart text)).1, ?_,
    ⟨gap, _, rfl, blank, some_digit, length_takeDigits_le .., all, value⟩, by simpa using bounds⟩
  rw [List.append_assoc, taken]
  exact cut

/-! ### Clock times -/

theorem stops_colon (text : List Char) : Stops Char.isDigit (':' :: text) :=
  Text.stops_cons (by decide) text

/-- A time of day is read as what it shows; with second 60 it lies a second behind second 59. -/
theorem ShowsClock.read (shows : ShowsClock hour minute second text) :
    readClock? text = some (hour * 3600 + minute * 60 + min second 59,
      toNano (if second = 60 then nanosPerSecond else 0)) := by
  cases shows with
  | short hour_lt minute_lt hours minutes =>
    have hourRead (rest : List Char) :=
      hours.read (stops_colon rest) (Nat.zero_le _) (Nat.le_of_lt_succ hour_lt)
    have minuteRead := minutes.read (Text.stops_nil _) (Nat.zero_le _) (Nat.le_of_lt_succ minute_lt)
    rw [List.append_nil] at minuteRead
    simp [readClock?, Reading.ofText, Reading.ofText.go, Field.read, readText, hourRead, minuteRead,
      Reading.clock?]
  | long hour_lt minute_lt second_le hours minutes seconds =>
    have hourRead (rest : List Char) :=
      hours.read (stops_colon rest) (Nat.zero_le _) (Nat.le_of_lt_succ hour_lt)
    have minuteRead (rest : List Char) :=
      minutes.read (stops_colon rest) (Nat.zero_le _) (Nat.le_of_lt_succ minute_lt)
    have secondRead := seconds.read (Text.stops_nil _) (Nat.zero_le _) second_le
    rw [List.append_nil] at secondRead
    simp [readClock?, Reading.ofText, Reading.ofText.go, Field.read, readText, hourRead, minuteRead,
      secondRead, Reading.clock?]

section

variable {field : Field} {fields : List Field} {reading result : Reading}

theorem Reading.go_cons_eq_some_iff :
    ofText.go (field :: fields) reading text = some result ↔
      ∃ next, field.read reading text = some next ∧
        ofText.go fields next.1 next.2 = some result := by
  rw [ofText.go]
  cases field.read reading text with
  | none => simp
  | some next => simp

theorem Reading.go_nil_eq_some (read : ofText.go [] reading text = some result) : text = [] := by
  cases text with
  | nil => rfl
  | cons c text => cases read

theorem exists_colon {found : Reading × List Char}
    (read : (Field.text [':']).read reading text = some found) : text = ':' :: found.2 := by
  obtain ⟨rest, colon, rfl⟩ := Option.map_eq_some_iff.1 read
  cases text with
  | nil => cases colon
  | cons c text =>
    rw [readText] at colon
    split at colon
    · next same => rw [← eq_of_beq same, Option.some_inj.1 colon]
    · cases colon

theorem exists_number {set : Nat × List Char → Reading × List Char} {next : Reading × List Char}
    (behind : ∀ found, (set found).2 = found.2)
    (read : (readTwo least most text).map set = some next) :
    ∃ n number, text = number ++ next.2 ∧ WritesTwo n number ∧ n ≤ most := by
  obtain ⟨⟨n, rest⟩, number, rfl⟩ := Option.map_eq_some_iff.1 read
  obtain ⟨word, cut, writes, _, upper⟩ := writesTwo_of_readTwo number
  exact ⟨n, word, cut.trans (congrArg (word ++ ·) (behind (n, rest)).symm), writes, upper⟩

theorem exists_hourMinute
    (read : Reading.ofText.go (.hour :: .text [':'] :: .minute :: fields) reading text =
      some result) :
    ∃ hour minute hours minutes after rest, text = hours ++ ':' :: (minutes ++ rest) ∧
      (hour < 24 ∧ minute < 60 ∧ WritesTwo hour hours ∧ WritesTwo minute minutes) ∧
      Reading.ofText.go fields after rest = some result := by
  obtain ⟨_, hourRead, read⟩ := Reading.go_cons_eq_some_iff.1 read
  obtain ⟨_, colonRead, read⟩ := Reading.go_cons_eq_some_iff.1 read
  obtain ⟨_, minuteRead, read⟩ := Reading.go_cons_eq_some_iff.1 read
  obtain ⟨hour, hours, front, writesHour, hour_le⟩ := exists_number (fun _ => rfl) hourRead
  obtain ⟨minute, minutes, cut, writesMinute, minute_le⟩ :=
    exists_number (fun _ => rfl) minuteRead
  refine ⟨hour, minute, hours, minutes, _, _, ?_,
    ⟨Nat.lt_succ_of_le hour_le, Nat.lt_succ_of_le minute_le, writesHour, writesMinute⟩, read⟩
  rw [front, exists_colon colonRead, cut]

end

theorem shows_of_readClock? {found : Nat × Fin 2000000000} (read : readClock? text = some found) :
    ∃ hour minute second, ShowsClock hour minute second text := by
  obtain ⟨result, read, _⟩ := Option.bind_eq_some_iff.1 read
  rcases Option.or_eq_some_iff.1 (Option.or_eq_orElse.trans read) with long | ⟨_, short⟩
  · obtain ⟨hour, minute, _, _, _, _, rfl, ⟨hour_lt, minute_lt, hours, minutes⟩, read⟩ :=
      exists_hourMinute long
    obtain ⟨_, colonRead, read⟩ := Reading.go_cons_eq_some_iff.1 read
    obtain ⟨_, secondRead, read⟩ := Reading.go_cons_eq_some_iff.1 read
    obtain ⟨second, _, cut, seconds, second_le⟩ := exists_number (fun _ => rfl) secondRead
    rw [Reading.go_nil_eq_some read, List.append_nil] at cut
    rw [exists_colon colonRead, cut]
    exact ⟨hour, minute, second, .long hour_lt minute_lt second_le hours minutes seconds⟩
  · obtain ⟨hour, minute, _, _, _, _, rfl, ⟨hour_lt, minute_lt, hours, minutes⟩, read⟩ :=
      exists_hourMinute short
    rw [Reading.go_nil_eq_some read, List.append_nil]
    exact ⟨hour, minute, 0, .short hour_lt minute_lt hours minutes⟩

end LogQuery.Time

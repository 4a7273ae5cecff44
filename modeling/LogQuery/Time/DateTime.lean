import LogQuery.Text.Basic
import LogQuery.Time.Calendar

/-! Points in time, carried with the offset they are written in.

Order and equality of instants ignore the offset. A leap second is held as the second before
it with a nanosecond count of a whole second or more, so it sorts after that second and before
the next one.
-/

set_option autoImplicit false

namespace LogQuery.Time

open Text (zeroPadded)

def nanosPerSecond : Nat := 1000000000

def secondsPerDay : Nat := 86400

abbrev Duration := Int

def toNano (n : Nat) : Fin 2000000000 := ⟨n % 2000000000, Nat.mod_lt n (by decide)⟩

structure DateTime where
  seconds : Int
  /-- nanoseconds after that second; from one second on it is a leap second -/
  nano : Fin 2000000000
  offset : Int
  deriving DecidableEq, Repr

namespace DateTime

def position (t : DateTime) : Int := t.seconds * 2000000000 + t.nano.val

instance : LE DateTime := ⟨fun a b => a.position ≤ b.position⟩
instance : LT DateTime := ⟨fun a b => a.position < b.position⟩
instance (a b : DateTime) : Decidable (a ≤ b) := inferInstanceAs (Decidable (a.position ≤ b.position))
instance (a b : DateTime) : Decidable (a < b) := inferInstanceAs (Decidable (a.position < b.position))

theorem le_def (a b : DateTime) : a ≤ b ↔ a.position ≤ b.position := Iff.rfl
theorem lt_def (a b : DateTime) : a < b ↔ a.position < b.position := Iff.rfl

theorem not_lt {a b : DateTime} : ¬ a < b ↔ b ≤ a := by
  simp [le_def, lt_def]

def isLeap (t : DateTime) : Bool := nanosPerSecond ≤ t.nano.val

def localSeconds (t : DateTime) : Int := t.seconds + t.offset

def localDate (t : DateTime) : Date := Date.ofDays (t.localSeconds / secondsPerDay)

def localSecondOfDay (t : DateTime) : Nat := (t.localSeconds % secondsPerDay).toNat

def secondOfDay (t : DateTime) : Nat := (t.seconds % secondsPerDay).toNat

def withOffset (t : DateTime) (offset : Int) : DateTime := { t with offset }

def offsetInRange (offset : Int) : Bool := -86400 < offset && offset < 86400

def inCalendar (t : DateTime) : Bool :=
  let day := t.seconds / secondsPerDay
  firstDay ≤ day && day ≤ lastDay

def ofLocal? (date : Date) (secondOfDay : Nat) (nano : Fin 2000000000) (offset : Int) :
    Option DateTime :=
  let t : DateTime := ⟨date.toDays * secondsPerDay + secondOfDay - offset, nano, offset⟩
  if t.inCalendar then some t else none

def ofCivil? (year : Int) (month day hour minute second : Nat) (offset : Int) : Option DateTime :=
  let date : Date := ⟨year, month, day⟩
  if date.isValid && hour < 24 && minute < 60 && second < 60 then
    ofLocal? date (hour * 3600 + minute * 60 + second) 0 offset
  else none

/-- The instant `d` after `t`. A time inside a leap second stays in it while it can; leaving it
forwards drops the extra second, leaving it backwards counts it. -/
def add (t : DateTime) (d : Duration) : DateTime :=
  let wholeSeconds := Int.tdiv d nanosPerSecond
  let fraction := Int.tmod d nanosPerSecond
  let nano : Int := t.nano.val
  let moved (seconds nano : Int) : DateTime :=
    let total := nano + fraction
    { t with
      seconds := seconds + wholeSeconds + total / nanosPerSecond
      nano := toNano (total % nanosPerSecond).toNat }
  if t.isLeap then
    if wholeSeconds > 0 || (fraction > 0 && nano ≥ 2000000000 - fraction) then
      moved t.seconds (nano - nanosPerSecond)
    else if wholeSeconds < 0 then
      moved (t.seconds + 1) (nano - nanosPerSecond)
    else
      { t with nano := toNano (nano + fraction).toNat }
  else moved t.seconds nano

def sub (t : DateTime) (d : Duration) : DateTime := t.add (-d)

def add? (t : DateTime) (d : Duration) : Option DateTime :=
  let moved := t.add d
  if moved.inCalendar then some moved else none

def sub? (t : DateTime) (d : Duration) : Option DateTime := t.add? (-d)

/-- Nanoseconds from `b` to `a`. A leap second counts when the later clock time is past it. -/
def since (a b : DateTime) : Duration :=
  let days := a.seconds / secondsPerDay - b.seconds / secondsPerDay
  let leap : Int :=
    if a.secondOfDay > b.secondOfDay && b.isLeap then 1
    else if a.secondOfDay < b.secondOfDay && a.isLeap then -1
    else 0
  let seconds : Int := (a.secondOfDay : Int) - b.secondOfDay + leap + days * secondsPerDay
  seconds * nanosPerSecond + ((a.nano.val : Int) - b.nano.val)

def yearText (year : Int) : String :=
  if 0 ≤ year && year ≤ 9999 then zeroPadded 4 year.toNat
  else (if year < 0 then "-" else "+") ++ zeroPadded 4 year.natAbs

def dateText (date : Date) : String :=
  s!"{yearText date.year}-{zeroPadded 2 date.month}-{zeroPadded 2 date.day}"

/-- Clock time as `HH:MM:SS`; a leap second shows as second 60 or later. -/
def clockText (t : DateTime) : String :=
  let s := t.localSecondOfDay
  let second := s % 60 + (if t.isLeap then 1 else 0)
  s!"{zeroPadded 2 (s / 3600)}:{zeroPadded 2 (s / 60 % 60)}:{zeroPadded 2 second}"

def shownNano (t : DateTime) : Nat := t.nano.val % nanosPerSecond

def offsetText (offset : Int) : String :=
  let sign := if offset < 0 then "-" else "+"
  let s := offset.natAbs
  let base := s!"{sign}{zeroPadded 2 (s / 3600)}:{zeroPadded 2 (s / 60 % 60)}"
  if s % 60 == 0 then base else s!"{base}:{zeroPadded 2 (s % 60)}"

/-- No fraction for a whole second, else three, six or nine digits, the fewest that are exact. -/
def fractionText (nano : Nat) : String :=
  if nano == 0 then ""
  else if nano % 1000000 == 0 then s!".{zeroPadded 3 (nano / 1000000)}"
  else if nano % 1000 == 0 then s!".{zeroPadded 6 (nano / 1000)}"
  else s!".{zeroPadded 9 nano}"

def text (t : DateTime) : String :=
  s!"{dateText t.localDate} {t.clockText}{fractionText t.shownNano} {offsetText t.offset}"

def isoText (t : DateTime) : String :=
  s!"{dateText t.localDate}T{t.clockText}.{zeroPadded 9 t.shownNano}{offsetText t.offset}"

end DateTime

end LogQuery.Time

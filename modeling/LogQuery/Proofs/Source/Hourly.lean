import LogQuery.Proofs.Time.Order
import LogQuery.Source.Hourly

/-! Hours as whole numbers.

On clocks that stand off by the same seconds all the time, hours can be counted. The files that a
window needs are then those of a range of numbers.
-/

set_option autoImplicit false

namespace LogQuery.Hourly

open Time

/-- The hour that a time lies in, by clocks in an offset. The hour in which these clocks show
1970-01-01T00:00:00 has the number 0. -/
def hourOf (offset : Int) (t : DateTime) : Int := (t.seconds + offset) / secondsPerHour

def hourStart (offset hour : Int) : DateTime := ⟨hour * secondsPerHour - offset, toNano 0, offset⟩

def IsWholeHour (t : DateTime) : Prop := (hourFloor t).position = t.position

instance (t : DateTime) : Decidable (IsWholeHour t) :=
  inferInstanceAs (Decidable ((hourFloor t).position = t.position))

/-- The number of the first hour behind the files for a window that ends at `t`. -/
def hourBehind (t : DateTime) : Int :=
  if IsWholeHour t then hourOf t.offset t else hourOf t.offset t + 1

variable {offset hour : Int} {t : DateTime}

@[simp] theorem hourOf_hourStart (offset hour : Int) :
    hourOf offset (hourStart offset hour) = hour := by
  simp only [hourOf, hourStart, secondsPerHour]
  omega

theorem hourFloor_eq (t : DateTime) : hourFloor t = hourStart t.offset (hourOf t.offset t) := by
  simp only [hourFloor, hourStart, hourOf, DateTime.localSeconds, secondsPerHour, DateTime.mk.injEq,
    and_self, and_true]
  omega

theorem hourCeiling_whole (whole : IsWholeHour t) : hourCeiling t = hourFloor t := if_pos whole

theorem hourCeiling_broken (broken : ¬ IsWholeHour t) :
    hourCeiling t = { hourFloor t with seconds := (hourFloor t).seconds + secondsPerHour } :=
  if_neg broken

theorem hourCeiling_eq (t : DateTime) : hourCeiling t = hourStart t.offset (hourBehind t) := by
  rw [hourBehind]
  by_cases whole : IsWholeHour t
  · rw [hourCeiling_whole whole, if_pos whole, hourFloor_eq]
  · rw [hourCeiling_broken whole, if_neg whole, hourFloor_eq]
    simp only [hourStart, secondsPerHour, DateTime.mk.injEq, and_self, and_true]
    omega

theorem lt_hourStart : t < hourStart offset hour ↔ hourOf offset t < hour := by
  have nano := t.nano.isLt
  have zero : (toNano 0).val = 0 := rfl
  simp only [DateTime.lt_def, DateTime.position, hourStart, hourOf, secondsPerHour, zero]
  omega

theorem hourStart_le : hourStart offset hour ≤ t ↔ hour ≤ hourOf offset t := by
  rw [← DateTime.not_lt, lt_hourStart, Int.not_lt]

theorem hourOf_mono {a b : DateTime} (le : a ≤ b) : hourOf offset a ≤ hourOf offset b :=
  hourStart_le.1 (DateTime.le_trans (hourStart_le.2 (Int.le_refl _)) le)

/-- Only a time that is no whole hour comes before the end of its hour's file. -/
theorem lt_hourCeiling (broken : ¬ IsWholeHour t) : t < hourCeiling t := by
  rw [hourCeiling_eq, lt_hourStart, hourBehind, if_neg broken]
  omega

theorem hoursOf_eq {window : Window} (startsIn : window.start.offset = offset)
    (endsIn : window.finish.offset = offset) :
    hoursOf window = (List.range (hourBehind window.finish - hourOf offset window.start).toNat).map
      fun (i : Nat) => hourStart offset (hourOf offset window.start + i) := by
  have count : ((hourCeiling window.finish).seconds - (hourFloor window.start).seconds +
      (secondsPerHour - 1)) / secondsPerHour =
        hourBehind window.finish - hourOf offset window.start := by
    rw [hourCeiling_eq, hourFloor_eq, startsIn, endsIn]
    simp only [hourStart, secondsPerHour]
    omega
  rw [hoursOf, count]
  apply List.map_congr_left
  intro i _
  rw [hourFloor_eq, startsIn]
  simp only [hourStart, secondsPerHour, DateTime.mk.injEq, and_self, and_true]
  omega

end LogQuery.Hourly

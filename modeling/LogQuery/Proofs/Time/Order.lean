import LogQuery.Time.DateTime

/-! Instants in the order of time, and lists of dates in that order. -/

set_option autoImplicit false

namespace LogQuery.Time.DateTime

theorem le_refl (a : DateTime) : a ≤ a := Int.le_refl _

theorem le_trans {a b c : DateTime} (first : a ≤ b) (second : b ≤ c) : a ≤ c :=
  Int.le_trans first second

theorem lt_of_lt_of_le {a b c : DateTime} (first : a < b) (second : b ≤ c) : a < c :=
  Int.lt_of_lt_of_le first second

theorem lt_of_le_of_lt {a b c : DateTime} (first : a ≤ b) (second : b < c) : a < c :=
  Int.lt_of_le_of_lt first second

theorem not_le {a b : DateTime} : ¬ a ≤ b ↔ b < a := Int.not_le

theorem le_of_getLast? {dates : List DateTime} (ordered : dates.Pairwise (· ≤ ·))
    {last d : DateTime} (isLast : dates.getLast? = some last) (member : d ∈ dates) : d ≤ last := by
  obtain ⟨front, rfl⟩ := List.getLast?_eq_some_iff.1 isLast
  rcases List.mem_append.1 member with before | same
  · exact (List.pairwise_append.1 ordered).2.2 d before last (List.mem_singleton.2 rfl)
  · rw [List.mem_singleton.1 same]
    exact le_refl last

/-! ### Instants outside leap seconds -/

def nanos (t : DateTime) : Int := t.seconds * 1000000000 + t.nano.val

variable {a b : DateTime}

theorem nano_lt (plain : a.isLeap = false) : a.nano.val < 1000000000 :=
  Nat.not_le.1 (of_decide_eq_false plain)

theorem since_eq (plain : a.isLeap = false) (plain' : b.isLeap = false) :
    a.since b = a.nanos - b.nanos := by
  simp only [since, secondOfDay, plain, plain', nanosPerSecond, secondsPerDay, nanos, Bool.and_false,
    Bool.false_eq_true, if_false]
  change @Eq Int _ _
  omega

theorem lt_iff_nanos (plain : a.isLeap = false) (plain' : b.isLeap = false) :
    a < b ↔ a.nanos < b.nanos := by
  have := nano_lt plain
  have := nano_lt plain'
  rw [lt_def, position, position, nanos, nanos]
  omega

theorem le_iff_nanos (plain : a.isLeap = false) (plain' : b.isLeap = false) :
    a ≤ b ↔ a.nanos ≤ b.nanos := by
  rw [← not_lt, lt_iff_nanos plain' plain, Int.not_lt]

theorem isLeap_of_nano_eq_zero (whole : a.nano.val = 0) : a.isLeap = false := by
  rw [isLeap, whole]
  rfl

theorem add_plain (plain : a.isLeap = false) (d : Duration) :
    a.add d = { a with
      seconds := a.seconds + Int.tdiv d nanosPerSecond +
        (a.nano.val + Int.tmod d nanosPerSecond) / nanosPerSecond
      nano := toNano ((a.nano.val + Int.tmod d nanosPerSecond) % nanosPerSecond).toNat } := by
  rw [add, plain]
  rfl

/-- Outside leap seconds an instant is moved along the nanoseconds. -/
theorem nanos_add (plain : a.isLeap = false) (d : Duration) :
    (a.add d).isLeap = false ∧ (a.add d).nanos = a.nanos + d := by
  have parts := Int.mul_tdiv_add_tmod d nanosPerSecond
  rw [add_plain plain, isLeap, nanos, nanos, toNano]
  rw [decide_eq_false_iff_not]
  simp only [nanosPerSecond] at parts ⊢
  omega

theorem nanos_sub (plain : a.isLeap = false) (d : Duration) :
    (a.sub d).isLeap = false ∧ (a.sub d).nanos = a.nanos - d := nanos_add plain (-d)

theorem add?_eq_some_iff {d : Duration} :
    a.add? d = some b ↔ b = a.add d ∧ b.inCalendar = true := by
  unfold add?
  dsimp only
  split
  · next within =>
    rw [Option.some_inj, eq_comm]
    exact ⟨fun same => ⟨same, same ▸ within⟩, And.left⟩
  · next beyond =>
    constructor
    · rintro ⟨⟩
    · rintro ⟨rfl, within⟩
      exact absurd within beyond

theorem sub?_eq_some_iff {d : Duration} :
    a.sub? d = some b ↔ b = a.sub d ∧ b.inCalendar = true := add?_eq_some_iff

theorem add_seconds (whole : a.nano.val = 0) (seconds : Int) :
    a.add (seconds * nanosPerSecond) = { a with seconds := a.seconds + seconds } := by
  have nano : toNano 0 = a.nano := Fin.ext whole.symm
  rw [add_plain (isLeap_of_nano_eq_zero whole), Int.mul_tdiv_cancel _ (by decide),
    Int.mul_tmod_left, whole]
  simp [nano]

theorem sub_seconds (whole : a.nano.val = 0) (seconds : Int) :
    a.sub (seconds * nanosPerSecond) = { a with seconds := a.seconds - seconds } := by
  rw [sub, ← Int.neg_mul, add_seconds whole, Int.sub_eq_add_neg]

end LogQuery.Time.DateTime

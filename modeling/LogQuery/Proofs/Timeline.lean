import LogQuery.Proofs.Time.Order
import LogQuery.Timeline

/-! The parts of a window of time, and what is counted in them.

An instant's part is the quotient of a division with remainder, which is told by the two products
that it lies between.
-/

set_option autoImplicit false

namespace LogQuery

namespace Timeline

open Time

variable {timeline : Timeline}

def addAll (timeline : Timeline) (marks : List (DateTime × Nat)) : Timeline :=
  marks.foldl (fun timeline mark => timeline.add mark.1 mark.2) timeline

def amountWhere (test : DateTime → Bool) : List (DateTime × Nat) → Nat
  | [] => 0
  | (t, amount) :: marks => (if test t then amount else 0) + amountWhere test marks

def amountIn (timeline : Timeline) (part : Nat) (marks : List (DateTime × Nat)) : Nat :=
  amountWhere (fun t => timeline.bucket? t == some part) marks

def total : List Nat → Nat
  | [] => 0
  | count :: counts => count + total counts

/-! ### What adding leaves as it is -/

theorem window_add (t : DateTime) (amount : Nat) : (timeline.add t amount).window = timeline.window := by
  rw [add]
  split <;> rfl

theorem size_add (t : DateTime) (amount : Nat) :
    (timeline.add t amount).counts.size = timeline.counts.size := by
  rw [add]
  split
  · exact Array.size_modify
  · rfl

theorem bucket?_congr {other : Timeline} (window : other.window = timeline.window)
    (size : other.counts.size = timeline.counts.size) : other.bucket? = timeline.bucket? := by
  funext t
  rw [bucket?, bucket?, window, size]

theorem bucket?_add (t : DateTime) (amount : Nat) :
    (timeline.add t amount).bucket? = timeline.bucket? :=
  bucket?_congr (window_add t amount) (size_add t amount)

theorem addAll_keeps (marks : List (DateTime × Nat)) :
    (timeline.addAll marks).window = timeline.window ∧
      (timeline.addAll marks).counts.size = timeline.counts.size := by
  induction marks generalizing timeline with
  | nil => exact ⟨rfl, rfl⟩
  | cons mark marks ih =>
    obtain ⟨window, size⟩ := @ih (timeline.add mark.1 mark.2)
    exact ⟨window.trans (window_add _ _), size.trans (size_add _ _)⟩

theorem bucket?_addAll (marks : List (DateTime × Nat)) :
    (timeline.addAll marks).bucket? = timeline.bucket? :=
  bucket?_congr (addAll_keeps marks).1 (addAll_keeps marks).2

/-! ### The part of an instant -/

def span (timeline : Timeline) : Int := timeline.window.finish.since timeline.window.start

def positionOf (timeline : Timeline) (t : DateTime) : Int := t.since timeline.window.start

theorem span_addAll (marks : List (DateTime × Nat)) :
    (timeline.addAll marks).span = timeline.span := by
  rw [span, (addAll_keeps marks).1]
  rfl

theorem positionOf_addAll (marks : List (DateTime × Nat)) (t : DateTime) :
    (timeline.addAll marks).positionOf t = timeline.positionOf t := by
  rw [positionOf, (addAll_keeps marks).1]
  rfl

theorem distance?_eq_some_iff {start finish : DateTime} {nanos : Int} :
    distance? start finish = some nanos ↔
      finish.since start = nanos ∧ -(Text.signedLimit : Int) ≤ nanos ∧ nanos < Text.signedLimit := by
  simp only [distance?, Option.ite_none_right_eq_some, Option.some.injEq, Bool.and_eq_true,
    decide_eq_true_iff]
  constructor
  · rintro ⟨fits, rfl⟩
    exact ⟨rfl, fits⟩
  · rintro ⟨rfl, fits⟩
    exact ⟨fits, rfl⟩

/-- A quotient is told by the multiples between which the dividend lies. -/
theorem ediv_toNat_eq_iff {dividend divisor : Int} (lower : 0 ≤ dividend) (positive : 0 < divisor)
    (part : Nat) :
    (dividend / divisor).toNat = part ↔ part * divisor ≤ dividend ∧ dividend < (part + 1) * divisor := by
  have quotient : 0 ≤ dividend / divisor := Int.ediv_nonneg lower (Int.le_of_lt positive)
  rw [← Int.le_ediv_iff_mul_le positive, ← Int.ediv_lt_iff_lt_mul positive]
  omega

/-- Where the window is short enough to be measured, an instant within it lies in the part that its
distance from the start belongs to, and no other instant lies in any. -/
theorem bucket?_eq_some_iff {t : DateTime} {part : Nat} :
    timeline.bucket? t = some part ↔
      timeline.span < Text.signedLimit ∧ timeline.counts.size ≠ 0 ∧
      (0 ≤ timeline.positionOf t ∧ timeline.positionOf t < timeline.span) ∧
      part * timeline.span ≤ timeline.positionOf t * timeline.counts.size ∧
      timeline.positionOf t * timeline.counts.size < (part + 1) * timeline.span := by
  have quotient (lower : 0 ≤ timeline.positionOf t)
      (upper : timeline.positionOf t < timeline.span) :=
    ediv_toNat_eq_iff (Int.mul_nonneg lower (Int.natCast_nonneg timeline.counts.size))
      (Int.lt_of_le_of_lt lower upper) part
  simp only [bucket?, Option.bind_eq_bind, Option.bind_eq_some_iff, distance?_eq_some_iff,
    Option.ite_none_right_eq_some, Bool.and_eq_true, decide_eq_true_iff, Option.some.injEq]
  constructor
  · rintro ⟨_, ⟨rfl, _, short⟩, _, ⟨rfl, _⟩, ⟨within, some_part⟩, isPart⟩
    exact ⟨short, some_part, within, (quotient within.1 within.2).1 isPart⟩
  · rintro ⟨short, some_part, ⟨lower, upper⟩, products⟩
    exact ⟨timeline.span, ⟨rfl, by omega, short⟩, timeline.positionOf t,
      ⟨rfl, by omega, by omega⟩, ⟨⟨lower, upper⟩, some_part⟩, (quotient lower upper).2 products⟩

theorem bucket?_lt {t : DateTime} {part : Nat} (found : timeline.bucket? t = some part) :
    part < timeline.counts.size := by
  obtain ⟨_, some_part, ⟨lower, upper⟩, least, _⟩ := bucket?_eq_some_iff.1 found
  have below : (part : Int) * timeline.span < timeline.counts.size * timeline.span := by
    rw [Int.mul_comm (timeline.counts.size : Int)]
    exact Int.lt_of_le_of_lt least (Int.mul_lt_mul_of_pos_right upper (by omega))
  exact Int.ofNat_lt.1 (Int.lt_of_mul_lt_mul_right below (by omega))

theorem bucket?_outside {t : DateTime}
    (outside : ¬ (0 ≤ timeline.positionOf t ∧ timeline.positionOf t < timeline.span)) :
    timeline.bucket? t = none := by
  rw [Option.eq_none_iff_forall_ne_some]
  intro part found
  exact outside (bucket?_eq_some_iff.1 found).2.2.1

theorem exists_part {t : DateTime} (short : timeline.span < Text.signedLimit)
    (some_part : timeline.counts.size ≠ 0)
    (within : 0 ≤ timeline.positionOf t ∧ timeline.positionOf t < timeline.span) :
    ∃ part < timeline.counts.size, timeline.bucket? t = some part ∧
      ∀ other : Nat, (other * timeline.span ≤ timeline.positionOf t * timeline.counts.size ∧
        timeline.positionOf t * timeline.counts.size < (other + 1) * timeline.span) ↔
          other = part := by
  have quotient := ediv_toNat_eq_iff
    (Int.mul_nonneg within.1 (Int.natCast_nonneg timeline.counts.size))
    (Int.lt_of_le_of_lt within.1 within.2)
  have found := bucket?_eq_some_iff.2 ⟨short, some_part, within, (quotient _).1 rfl⟩
  exact ⟨_, bucket?_lt found, found, fun other => (quotient other).symm.trans eq_comm⟩

/-- Of two instants in parts, the later one lies in no earlier part. -/
theorem part_le {t later : DateTime} {part partLater : Nat}
    (order : timeline.positionOf t ≤ timeline.positionOf later)
    (found : timeline.bucket? t = some part) (foundLater : timeline.bucket? later = some partLater) :
    part ≤ partLater := by
  obtain ⟨_, _, ⟨lower, upper⟩, least, _⟩ := bucket?_eq_some_iff.1 found
  obtain ⟨_, _, _, _, most⟩ := bucket?_eq_some_iff.1 foundLater
  have between : (part : Int) * timeline.span < (partLater + 1) * timeline.span :=
    calc (part : Int) * timeline.span
      _ ≤ timeline.positionOf t * timeline.counts.size := least
      _ ≤ timeline.positionOf later * timeline.counts.size :=
        Int.mul_le_mul_of_nonneg_right order (Int.natCast_nonneg _)
      _ < (partLater + 1) * timeline.span := most
  have := Int.lt_of_mul_lt_mul_right between (by omega)
  omega

/-! ### What is counted -/

theorem total_modify {counts : List Nat} {place amount : Nat} {f : Nat → Nat}
    (within : place < counts.length) (more : f counts[place] = counts[place] + amount) :
    total (counts.modify place f) = total counts + amount := by
  induction counts generalizing place with
  | nil => cases within
  | cons count counts ih =>
    cases place with
    | zero =>
      have first : f count = count + amount := more
      rw [List.modify_zero_cons, total, total, first]
      omega
    | succ place =>
      rw [List.modify_succ_cons, total, total, ih (Nat.lt_of_succ_lt_succ within) more,
        Nat.add_assoc]

def share (timeline : Timeline) (part : Nat) (mark : DateTime × Nat) : Nat :=
  if timeline.bucket? mark.1 == some part then mark.2 else 0

theorem amountIn_cons (part : Nat) (mark : DateTime × Nat) (marks : List (DateTime × Nat)) :
    timeline.amountIn part (mark :: marks) =
      timeline.share part mark + timeline.amountIn part marks := rfl

theorem count_add {part : Nat} (within : part < timeline.counts.size) (mark : DateTime × Nat)
    (fits : timeline.counts.getD part 0 + timeline.share part mark < Text.wordLimit) :
    (timeline.add mark.1 mark.2).counts.getD part 0 =
      timeline.counts.getD part 0 + timeline.share part mark := by
  rw [share] at *
  rw [add]
  cases found : timeline.bucket? mark.1 with
  | none => rfl
  | some place =>
    rw [found] at fits
    simp only [Array.getD_eq_getD_getElem?, Array.getElem?_modify]
    by_cases same : place = part
    · have counted : timeline.counts[part]? = some timeline.counts[part] :=
        Array.getElem?_eq_getElem within
      simp only [same, Array.getD_eq_getD_getElem?, counted, beq_self_eq_true, if_true] at fits ⊢
      exact Nat.mod_eq_of_lt fits
    · have other : (some place == some part) = false := by simpa using same
      simp only [same, other, Bool.false_eq_true, if_false, Nat.add_zero]

theorem total_add (mark : DateTime × Nat) (fits : ∀ part < timeline.counts.size,
      timeline.counts.getD part 0 + timeline.share part mark < Text.wordLimit) :
    total (timeline.add mark.1 mark.2).counts.toList =
      total timeline.counts.toList + if (timeline.bucket? mark.1).isSome then mark.2 else 0 := by
  rw [add]
  cases found : timeline.bucket? mark.1 with
  | none => rfl
  | some place =>
    have within := bucket?_lt found
    have small := fits place within
    rw [share, found, beq_self_eq_true, if_pos rfl, Array.getD_eq_getD_getElem?,
      Array.getElem?_eq_getElem within] at small
    rw [Array.toList_modify]
    exact total_modify (Array.length_toList.symm ▸ within) (Nat.mod_eq_of_lt small)

/-- Each part grows by what lies in it, and all of them together by what lies in any. -/
theorem counts_addAll (marks : List (DateTime × Nat)) (fits : ∀ part < timeline.counts.size,
      timeline.counts.getD part 0 + timeline.amountIn part marks < Text.wordLimit) :
    (∀ part < timeline.counts.size, (timeline.addAll marks).counts.getD part 0 =
      timeline.counts.getD part 0 + timeline.amountIn part marks) ∧
    total (timeline.addAll marks).counts.toList =
      total timeline.counts.toList + amountWhere (fun t => (timeline.bucket? t).isSome) marks := by
  induction marks generalizing timeline with
  | nil => exact ⟨fun _ _ => rfl, rfl⟩
  | cons mark marks ih =>
    -- no count leaves the words on the way, as none does in the end
    have first (part : Nat) (within : part < timeline.counts.size) :
        timeline.counts.getD part 0 + timeline.share part mark < Text.wordLimit := by
      have := fits part within
      rw [amountIn_cons] at this
      omega
    have sameIn (part : Nat) : (timeline.add mark.1 mark.2).amountIn part marks =
        timeline.amountIn part marks := by
      rw [amountIn, amountIn, bucket?_add]
    obtain ⟨each, all⟩ := @ih (timeline.add mark.1 mark.2) fun part within => by
      rw [size_add] at within
      rw [count_add within mark (first part within), sameIn, Nat.add_assoc]
      exact fits part within
    constructor
    · intro part within
      have grown := each part (by rwa [size_add])
      rw [count_add within mark (first part within), sameIn, Nat.add_assoc] at grown
      exact grown
    · rw [total_add mark first, bucket?_add, Nat.add_assoc] at all
      exact all

/-! ### A timeline from its beginning -/

section

variable {window : Window} {size : Nat}

@[simp] theorem size_ofSize : (ofSize window size).counts.size = size := Array.size_replicate

theorem getD_ofSize (part : Nat) : (ofSize window size).counts.getD part 0 = 0 := by
  rw [ofSize, Array.getD_eq_getD_getElem?, Array.getElem?_replicate]
  split <;> rfl

theorem positionOf_bounds {t : DateTime} (plain : t.isLeap = false)
    (plainStart : window.start.isLeap = false) (plainFinish : window.finish.isLeap = false) :
    (window.start ≤ t ↔ 0 ≤ (ofSize window size).positionOf t) ∧
    (t < window.finish ↔ (ofSize window size).positionOf t < (ofSize window size).span) := by
  have position : (ofSize window size).positionOf t = t.nanos - window.start.nanos :=
    DateTime.since_eq plain plainStart
  have length : (ofSize window size).span = window.finish.nanos - window.start.nanos :=
    DateTime.since_eq plainFinish plainStart
  rw [DateTime.le_iff_nanos plainStart plain, DateTime.lt_iff_nanos plain plainFinish, position,
    length]
  omega

theorem total_replicate (size : Nat) : total (List.replicate size 0) = 0 := by
  induction size with
  | zero => rfl
  | succ size ih => rw [List.replicate_succ, total, ih]

theorem amountWhere_congr {test other : DateTime → Bool} {marks : List (DateTime × Nat)}
    (same : ∀ mark ∈ marks, test mark.1 = other mark.1) :
    amountWhere test marks = amountWhere other marks := by
  induction marks with
  | nil => rfl
  | cons mark marks ih =>
    rw [List.forall_mem_cons] at same
    rw [amountWhere, amountWhere, same.1, ih same.2]

def doubleLimit : Int := 170141183460469231731687303715884105728

/-- The limits of the length and of the number of parts make the product fit. -/
theorem product_lt {position span : Int} (short : span < Text.signedLimit)
    (few : size < 1152921504606846976) (lower : 0 ≤ position) (upper : position < span) :
    0 ≤ position * size ∧ position * size < doubleLimit := by
  have limit : (Text.signedLimit : Int) = 9223372036854775808 := rfl
  have product : position * size ≤ 9223372036854775808 * 1152921504606846976 :=
    Int.mul_le_mul (by omega) (by omega) (by omega) (by decide)
  exact ⟨Int.mul_nonneg lower (Int.natCast_nonneg _), Int.lt_of_le_of_lt product (by decide)⟩

/-- A later instant is farther from the start. -/
theorem positionOf_mono {t later : DateTime} (plain : t.isLeap = false)
    (plainLater : later.isLeap = false) (plainStart : window.start.isLeap = false)
    (order : t ≤ later) :
    (ofSize window size).positionOf t ≤ (ofSize window size).positionOf later := by
  have distance {t : DateTime} (plain : t.isLeap = false) :
      (ofSize window size).positionOf t = t.nanos - window.start.nanos :=
    DateTime.since_eq plain plainStart
  rw [DateTime.le_iff_nanos plain plainLater] at order
  rw [distance plain, distance plainLater]
  omega

/-- In a window that can be measured, every instant from the start up to the end lies in the one
part that its distance belongs to, later ones in no earlier part, and all others in none. Each part
comes to count what lies in it, and the parts together what lies in the window. -/
theorem addAll_partition (marks : List (DateTime × Nat))
    (plainStart : window.start.isLeap = false) (plainFinish : window.finish.isLeap = false)
    (short : (ofSize window size).span < Text.signedLimit)
    (sized : 1 ≤ size ∧ size < 1152921504606846976)
    (plainMarks : ∀ mark ∈ marks, mark.1.isLeap = false)
    (fits : ∀ part < size, (ofSize window size).amountIn part marks < Text.wordLimit) :
    let timeline := (ofSize window size).addAll marks
    let isInside (t : DateTime) : Bool := window.start ≤ t && t < window.finish
    (∀ t : DateTime, t.isLeap = false → isInside t = true →
      (0 ≤ timeline.positionOf t * size ∧ timeline.positionOf t * size < doubleLimit) ∧
      ∃ part < size, timeline.bucket? t = some part ∧
        ∀ other : Nat, (other * timeline.span ≤ timeline.positionOf t * size ∧
          timeline.positionOf t * size < (other + 1) * timeline.span) ↔ other = part) ∧
    (∀ t : DateTime, t.isLeap = false → isInside t = false → timeline.bucket? t = none) ∧
    (∀ t later : DateTime, t.isLeap = false → later.isLeap = false → t ≤ later →
      ∀ part partLater, timeline.bucket? t = some part → timeline.bucket? later = some partLater →
        part ≤ partLater) ∧
    timeline.counts.size = size ∧
    (∀ part < size, timeline.counts[part]? = some (timeline.amountIn part marks)) ∧
    total timeline.counts.toList = amountWhere isInside marks := by
  intro timeline isInside
  have sameSize : timeline.counts.size = size := (addAll_keeps marks).2.trans size_ofSize
  have sameBuckets : timeline.bucket? = (ofSize window size).bucket? := bucket?_addAll marks
  have samePosition (t : DateTime) : timeline.positionOf t = (ofSize window size).positionOf t :=
    positionOf_addAll marks t
  have sameSpan : timeline.span = (ofSize window size).span := span_addAll marks
  have inside_iff (t : DateTime) (plain : t.isLeap = false) : isInside t = true ↔
      0 ≤ timeline.positionOf t ∧ timeline.positionOf t < timeline.span := by
    obtain ⟨lower, upper⟩ := @positionOf_bounds window size t plain plainStart plainFinish
    rw [Bool.and_eq_true, decide_eq_true_iff, decide_eq_true_iff, lower, upper, samePosition,
      sameSpan]
  rw [← sameSpan] at short
  have some_part : timeline.counts.size ≠ 0 := by omega
  have found (t : DateTime) (plain : t.isLeap = false) (inside : isInside t = true) :=
    exists_part short some_part ((inside_iff t plain).1 inside)
  have nowhere (t : DateTime) (plain : t.isLeap = false) (outside : isInside t = false) :
      timeline.bucket? t = none := by
    rw [← Bool.not_eq_true, inside_iff t plain] at outside
    exact bucket?_outside outside
  obtain ⟨each, all⟩ := @counts_addAll (ofSize window size) marks fun part within => by
    rw [getD_ofSize, Nat.zero_add]
    exact fits part (by simpa using within)
  refine ⟨fun t plain inside => ⟨?_, sameSize ▸ found t plain inside⟩, nowhere, ?_, sameSize, ?_, ?_⟩
  · obtain ⟨lower, upper⟩ := (inside_iff t plain).1 inside
    exact product_lt short sized.2 lower upper
  · intro t later plain plainLater order part partLater inPart inPartLater
    refine part_le ?_ inPart inPartLater
    rw [samePosition, samePosition]
    exact positionOf_mono plain plainLater plainStart order
  · intro part within
    have counted := each part (size_ofSize.symm ▸ within)
    have present := Array.getElem?_eq_getElem (sameSize.symm ▸ within)
    rw [getD_ofSize, Nat.zero_add, Array.getD_eq_getD_getElem?, present, Option.getD_some] at counted
    rw [present, counted, amountIn, amountIn, sameBuckets]
  · -- what lies in any part is what lies in the window
    have nothing : total (ofSize window size).counts.toList = 0 := total_replicate size
    rw [all, nothing, Nat.zero_add, ← sameBuckets]
    refine amountWhere_congr fun mark member => ?_
    have plain := plainMarks mark member
    cases inside : isInside mark.1 with
    | true =>
      obtain ⟨part, _, isPart, _⟩ := found mark.1 plain inside
      rw [isPart, Option.isSome_some]
    | false => rw [nowhere mark.1 plain inside, Option.isSome_none]

end

theorem addAll_partition_hour :
    let window : Window := ⟨⟨1479019488, toNano 0, 0⟩, ⟨1479023088, toNano 0, 0⟩⟩
    let marks : List (DateTime × Nat) := [(⟨1479019488, toNano 0, 0⟩, 1),
      (⟨1479019500, toNano 0, 3600⟩, 2), (⟨1479023087, toNano 999999999, 0⟩, 5),
      (⟨1479023088, toNano 0, 0⟩, 100)]
    let timeline := (ofSize window 30).addAll marks
    window.start < window.finish ∧ (∀ mark ∈ marks, mark.1.isLeap = false) ∧
      (∀ part < 30, (ofSize window 30).amountIn part marks < Text.wordLimit) ∧
      timeline.counts.size = 30 ∧ timeline.counts[0]? = some 3 ∧ timeline.counts[29]? = some 5 ∧
      timeline.bucket? window.finish = none ∧ total timeline.counts.toList = 8 := by
  intro window marks timeline
  have plain : ∀ mark ∈ marks, mark.1.isLeap = false := by decide
  have fits : ∀ part < 30, (ofSize window 30).amountIn part marks < Text.wordLimit := by
    decide +kernel
  obtain ⟨-, nowhere, -, size, each, all⟩ := addAll_partition marks rfl rfl (by decide) (by decide)
    plain fits
  have same : timeline.bucket? = (ofSize window 30).bucket? := bucket?_addAll marks
  refine ⟨by decide, plain, fits, size, (each 0 (by decide)).trans ?_,
    (each 29 (by decide)).trans ?_, nowhere window.finish rfl (by decide), ?_⟩
  · rw [amountIn, same]
    decide +kernel
  · rw [amountIn, same]
    decide +kernel
  · rw [all]
    decide +kernel

end Timeline

end LogQuery

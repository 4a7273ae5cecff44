import LogQuery.Chart.Bitmap
import Mathlib.Logic.Relation

/-! The line of a chart holds together.

A column is drawn from point to point: from its midpoint with the column before, over its own count,
to its midpoint with the column behind. The rows of these strokes are one run, which reaches all of
the points. Neighbours have a midpoint in common, so that their runs touch wherever both are seen.
-/

set_option autoImplicit false

namespace LogQuery.Chart

variable {points : List Nat} {lines : List Stroke} {top bottom height : Nat}

/-! ### Runs of rows -/

def IsDrawn (lines : List Stroke) (y : Nat) : Prop :=
  ∃ stroke ∈ lines, strokeCovers stroke.1 stroke.2 y = true

/-- The strokes cover the rows from `top` up to `bottom`, which is left out, and go through all of
the points. -/
structure IsRun (points : List Nat) (lines : List Stroke) (top bottom : Nat) : Prop where
  isDrawn_iff : ∀ y, IsDrawn lines y ↔ top ≤ y ∧ y < bottom
  top_lt : top < bottom
  top_mem : top ∈ points
  within : ∀ point ∈ points, top ≤ point ∧ point ≤ bottom

theorem strokeCovers_iff (a b y : Nat) :
    strokeCovers a b y = true ↔ min a b ≤ y ∧ y < max (max a b) (min a b + 1) := by
  simp only [strokeCovers, Bool.or_eq_true, Bool.and_eq_true, beq_iff_eq, decide_eq_true_eq]
  omega

theorem isRun_stroke (a b : Nat) :
    IsRun [a, b] [(a, b)] (min a b) (max (max a b) (min a b + 1)) where
  isDrawn_iff y := by simp [IsDrawn, strokeCovers_iff]
  top_lt := by omega
  top_mem := by
    rw [List.mem_cons, List.mem_singleton]
    omega
  within := by
    rw [List.forall_mem_cons, List.forall_mem_singleton]
    omega

theorem IsRun.cons {a b : Nat} (run : IsRun (b :: points) lines top bottom) :
    IsRun (a :: b :: points) ((a, b) :: lines) (min (min a b) top)
      (max (max (max a b) (min a b + 1)) bottom) := by
  obtain ⟨above, below⟩ := run.within b List.mem_cons_self
  have longer := run.top_lt
  refine ⟨fun y => ?_, by omega, ?_, ?_⟩
  · have either : IsDrawn ((a, b) :: lines) y ↔ strokeCovers a b y = true ∨ IsDrawn lines y := by
      simp [IsDrawn]
    -- both reach the row `b`, or end just above it, so that no row between them is left out
    rw [either, strokeCovers_iff, run.isDrawn_iff]
    omega
  · rcases Nat.le_total (min a b) top with higher | lower
    · rw [Nat.min_eq_left higher]
      exact List.mem_append_left points (isRun_stroke a b).top_mem
    · rw [Nat.min_eq_right lower]
      exact List.mem_cons_of_mem a run.top_mem
  · rw [List.forall_mem_cons]
    refine ⟨by omega, fun point member => ?_⟩
    have := run.within point member
    omega

def strokes (points : List Nat) : List Stroke := points.zip points.tail

theorem exists_run (several : 2 ≤ points.length) :
    ∃ top bottom, IsRun points (strokes points) top bottom := by
  match points, several with
  | a :: b :: points, _ =>
    induction points generalizing a b with
    | nil => exact ⟨_, _, isRun_stroke a b⟩
    | cons c points ih =>
      obtain ⟨top, bottom, run⟩ := ih b c (by simp)
      exact ⟨_, _, run.cons⟩

/-- A run that is seen above `height` shows one of its rows at each of its points, or just above. -/
theorem IsRun.near {point : Nat} (run : IsRun points lines top bottom) (seen : top < height)
    (member : point ∈ points) (inHeight : point ≤ height) :
    ∃ y < height, IsDrawn lines y ∧ y ≤ point ∧ point ≤ y + 1 := by
  obtain ⟨above, below⟩ := run.within point member
  have longer := run.top_lt
  -- the point itself, unless the rows of the run that are seen end just above it
  refine ⟨min point (min bottom height - 1), by omega, (run.isDrawn_iff _).2 ?_, by omega, by omega⟩
  omega

theorem IsRun.height_le_iff (run : IsRun points lines top bottom) :
    height ≤ top ↔ ∀ point ∈ points, height ≤ point :=
  ⟨fun hidden point member => Nat.le_trans hidden (run.within point member).1,
    fun hidden => hidden top run.top_mem⟩

/-! ### Columns -/

theorem rowOf_le (height peak count : Nat) : rowOf height peak count ≤ height := Nat.sub_le ..

theorem le_rowOf_iff (height peak count : Nat) :
    height ≤ rowOf height peak count ↔ count * height / peak = 0 := by
  rw [rowOf]
  constructor
  · intro low
    rcases Nat.eq_zero_or_pos height with rfl | positive
    · rw [Nat.mul_zero, Nat.zero_div]
    · generalize count * height / peak = rows at low ⊢
      omega
  · intro flat
    rw [flat, Nat.zero_min]
    exact Nat.le_refl height

def countsThrough (count : Nat → Nat) (width x : Nat) : List Nat :=
  (if 0 < x then [(count x + count (x - 1)) / 2] else []) ++
    count x :: if x + 1 < width then [(count x + count (x + 1)) / 2] else []

theorem strokesAt_eq (row count : Nat → Nat) (width x : Nat) :
    Bitmap.strokesAt row count width x = strokes ((countsThrough count width x).map row) := by
  rw [Bitmap.strokesAt, countsThrough]
  by_cases before : 0 < x <;> by_cases behind : x + 1 < width <;> simp [before, behind, strokes]

theorem two_le_length_countsThrough (count : Nat → Nat) {width x : Nat} (wide : 2 ≤ width)
    (inside : x < width) : 2 ≤ (countsThrough count width x).length := by
  rw [countsThrough]
  rcases Nat.eq_zero_or_pos x with rfl | before
  · rw [if_neg (Nat.lt_irrefl 0), if_pos (show 0 + 1 < width from wide)]
    exact Nat.le_refl 2
  · rw [if_pos before]
    exact Nat.le_add_left 2 _

namespace Bitmap

variable {counts : Array Nat} {width x y : Nat}

def IsBlank (bitmap : Bitmap) (x : Nat) : Prop := ∀ y, ¬ bitmap.isSet x y = true

theorem isSet_iff (bitmap : Bitmap) (x y : Nat) :
    bitmap.isSet x y = true ↔ y < bitmap.height ∧ IsDrawn (bitmap.columns.getD x []) y := by
  rw [isSet, Bool.and_eq_true, decide_eq_true_eq, List.any_eq_true]
  rfl

def rowsThrough (counts : Array Nat) (width height x : Nat) : List Nat :=
  (countsThrough (fun x => counts.getD x 0) width x).map (rowOf height (peak counts))

theorem columns_ofCounts (counts : Array Nat) (height : Nat) (inside : x < width) :
    (ofCounts counts width height).columns.getD x [] =
      strokes (rowsThrough counts width height x) := by
  rw [ofCounts, rowsThrough, ← strokesAt_eq]
  simp [inside]

theorem exists_run_ofCounts (wide : 2 ≤ width) (counts : Array Nat) (height : Nat)
    (inside : x < width) :
    ∃ top bottom, IsRun (rowsThrough counts width height x)
      ((ofCounts counts width height).columns.getD x []) top bottom := by
  rw [columns_ofCounts counts height inside]
  apply exists_run
  rw [rowsThrough, List.length_map]
  exact two_le_length_countsThrough _ wide inside

theorem isBlank_iff_of_isRun {bitmap : Bitmap}
    (run : IsRun points (bitmap.columns.getD x []) top bottom) :
    bitmap.IsBlank x ↔ bitmap.height ≤ top := by
  simp only [IsBlank, isSet_iff, run.isDrawn_iff]
  have longer := run.top_lt
  refine ⟨fun blank => ?_, fun hidden y set => by omega⟩
  have := blank top
  omega

/-- Two pixels that are set, one of them beside, above or below the other, or at its corner. -/
def Adjoins (bitmap : Bitmap) (p q : Nat × Nat) : Prop :=
  bitmap.isSet p.1 p.2 = true ∧ bitmap.isSet q.1 q.2 = true ∧
    (p.1 ≤ q.1 + 1 ∧ q.1 ≤ p.1 + 1) ∧ p.2 ≤ q.2 + 1 ∧ q.2 ≤ p.2 + 1

def AreJoined (bitmap : Bitmap) : Nat × Nat → Nat × Nat → Prop :=
  Relation.ReflTransGen bitmap.Adjoins

instance (bitmap : Bitmap) : Std.Symm bitmap.Adjoins where
  symm _ _ adjoins := ⟨adjoins.2.1, adjoins.1, adjoins.2.2.1.symm, adjoins.2.2.2.symm⟩

instance (bitmap : Bitmap) : Std.Symm bitmap.AreJoined := Relation.ReflTransGen.stdSymm

theorem areJoined_of_run {bitmap : Bitmap} {y' : Nat}
    (run : ∀ y, bitmap.isSet x y = true ↔ top ≤ y ∧ y < bottom)
    (set : bitmap.isSet x y = true) (set' : bitmap.isSet x y' = true) :
    bitmap.AreJoined (x, y) (x, y') := by
  have down {y : Nat} (set : bitmap.isSet x y = true) (n : Nat)
      (set' : bitmap.isSet x (y + n) = true) : bitmap.AreJoined (x, y) (x, y + n) := by
    induction n with
    | zero => exact .refl
    | succ n ih =>
      have between : bitmap.isSet x (y + n) = true := by
        rw [run] at set set' ⊢
        omega
      refine (ih between).tail ⟨between, set', ?_, ?_⟩ <;> dsimp only <;> omega
  rcases Nat.le_total y y' with below | above
  · obtain ⟨n, rfl⟩ := Nat.exists_eq_add_of_le below
    exact down set n set'
  · obtain ⟨n, rfl⟩ := Nat.exists_eq_add_of_le above
    exact Std.Symm.symm _ _ (down set' n set)

/-- Columns of one run each are joined if every two neighbours adjoin somewhere. -/
theorem areJoined_of_adjoins {bitmap : Bitmap} {first last y' : Nat} (order : first ≤ last)
    (runs : ∀ x, first ≤ x → x ≤ last →
      ∃ top bottom, ∀ y, bitmap.isSet x y = true ↔ top ≤ y ∧ y < bottom)
    (touch : ∀ x, first ≤ x → x + 1 ≤ last → ∃ y y', bitmap.Adjoins (x, y) (x + 1, y'))
    (set : bitmap.isSet first y = true) (set' : bitmap.isSet last y' = true) :
    bitmap.AreJoined (first, y) (last, y') := by
  obtain ⟨n, rfl⟩ := Nat.exists_eq_add_of_le order
  induction n generalizing y' with
  | zero =>
    obtain ⟨top, bottom, run⟩ := runs first order order
    exact areJoined_of_run run set set'
  | succ n ih =>
    -- the way goes to where the last two columns touch, over to the last one, and along it
    obtain ⟨z, z', adjoins⟩ := touch (first + n) (Nat.le_add_right ..) (Nat.le_refl _)
    have before : bitmap.AreJoined (first, y) (first + n, z) :=
      ih (Nat.le_add_right ..) (fun x lower upper => runs x lower (Nat.le_succ_of_le upper))
        (fun x lower upper => touch x lower (Nat.le_succ_of_le upper)) adjoins.1
    obtain ⟨top, bottom, run⟩ := runs (first + n + 1) order (Nat.le_refl _)
    exact (before.tail adjoins).trans (areJoined_of_run run adjoins.2.1 set')

/-! ### The line -/

theorem exists_rows (wide : 2 ≤ width) (counts : Array Nat) (height : Nat) (inside : x < width) :
    ∃ top bottom, ∀ y,
      (ofCounts counts width height).isSet x y = true ↔ top ≤ y ∧ y < bottom := by
  obtain ⟨top, bottom, run⟩ := exists_run_ofCounts wide counts height inside
  refine ⟨top, min bottom height, fun y => ?_⟩
  have drawn : (ofCounts counts width height).height = height := rfl
  rw [isSet_iff, run.isDrawn_iff, drawn]
  omega

/-- A column is blank exactly if everything that it is drawn through scales to no rows. -/
theorem isBlank_iff (wide : 2 ≤ width) (counts : Array Nat) (height : Nat) (inside : x < width) :
    (ofCounts counts width height).IsBlank x ↔
      ∀ value ∈ countsThrough (fun x => counts.getD x 0) width x,
        value * height / peak counts = 0 := by
  obtain ⟨top, bottom, run⟩ := exists_run_ofCounts wide counts height inside
  rw [isBlank_iff_of_isRun run]
  refine run.height_le_iff.trans ?_
  rw [rowsThrough, List.forall_mem_map]
  exact forall₂_congr fun value _ => le_rowOf_iff height (peak counts) value

theorem exists_common_row (counts : Array Nat) (height : Nat) (behind : x + 1 < width) :
    ∃ row ≤ height, row ∈ rowsThrough counts width height x ∧
      row ∈ rowsThrough counts width height (x + 1) := by
  let count (x : Nat) : Nat := counts.getD x 0
  have right : (count x + count (x + 1)) / 2 ∈ countsThrough count width x := by
    simp [countsThrough, behind]
  have left : (count x + count (x + 1)) / 2 ∈ countsThrough count width (x + 1) := by
    rw [Nat.add_comm (count x)]
    simp [countsThrough]
  exact ⟨_, rowOf_le .., List.mem_map_of_mem right, List.mem_map_of_mem left⟩

theorem exists_adjoins (wide : 2 ≤ width) (counts : Array Nat) (height : Nat)
    (behind : x + 1 < width) (seen : ¬ (ofCounts counts width height).IsBlank x)
    (seen' : ¬ (ofCounts counts width height).IsBlank (x + 1)) :
    ∃ y y', (ofCounts counts width height).Adjoins (x, y) (x + 1, y') := by
  obtain ⟨top, bottom, run⟩ := exists_run_ofCounts wide counts height (Nat.lt_of_succ_lt behind)
  obtain ⟨top', bottom', run'⟩ := exists_run_ofCounts wide counts height behind
  rw [isBlank_iff_of_isRun run, Nat.not_le] at seen
  rw [isBlank_iff_of_isRun run', Nat.not_le] at seen'
  obtain ⟨row, inHeight, member, member'⟩ := exists_common_row counts height behind
  obtain ⟨y, visible, drawn, _, _⟩ := run.near seen member inHeight
  obtain ⟨y', visible', drawn', _, _⟩ := run'.near seen' member' inHeight
  refine ⟨y, y', (isSet_iff ..).2 ⟨visible, drawn⟩, (isSet_iff ..).2 ⟨visible', drawn'⟩, ?_, ?_⟩ <;>
    dsimp only <;> omega

theorem isBlank_of_zero (wide : 2 ≤ width) {counts : Array Nat} (height : Nat)
    (zero : ∀ count ∈ counts, count = 0) (x : Nat) : (ofCounts counts width height).IsBlank x := by
  by_cases inside : x < width
  · have flat : (fun x => counts.getD x 0) = fun _ => 0 := by
      funext x
      rw [Array.getD_eq_getD_getElem?]
      cases here : counts[x]? with
      | none => rfl
      | some count => exact zero count (Array.mem_of_getElem? here)
    rw [isBlank_iff wide counts height inside, flat]
    intro value member
    obtain rfl : value = 0 := by
      rw [countsThrough] at member
      split at member <;> split at member <;> simpa using member
    rw [Nat.zero_mul, Nat.zero_div]
  · -- behind the last column there are no strokes, whatever the counts
    have none_drawn : (ofCounts counts width height).columns.getD x [] = [] := by
      simp [ofCounts, inside]
    intro y set
    rw [isSet_iff, none_drawn] at set
    obtain ⟨stroke, member, _⟩ := set.2
    exact List.not_mem_nil member

/-- The line through some counts in a bitmap of at least two columns. The pixels set in a column are
one run, if there are any. A column is blank exactly if its count and its midpoints with its
neighbours all scale to no rows. Two neighbours that are not blank touch, so that over columns none
of which is blank the line holds together. Where all counts are zero nothing is set. -/
theorem ofCounts_polyline (wide : 2 ≤ width) (counts : Array Nat) (height : Nat) :
    let bitmap := ofCounts counts width height
    let count (x : Nat) : Nat := counts.getD x 0
    (∀ x < width, ∃ top bottom, ∀ y, bitmap.isSet x y = true ↔ top ≤ y ∧ y < bottom) ∧
    (∀ x < width, bitmap.IsBlank x ↔
      ∀ value ∈ countsThrough count width x, value * height / peak counts = 0) ∧
    (∀ x, x + 1 < width → ¬ bitmap.IsBlank x → ¬ bitmap.IsBlank (x + 1) →
      ∃ y y', bitmap.Adjoins (x, y) (x + 1, y')) ∧
    (∀ first last, first ≤ last → last < width →
      (∀ x, first ≤ x → x ≤ last → ¬ bitmap.IsBlank x) → ∀ y y',
        bitmap.isSet first y = true → bitmap.isSet last y' = true →
          bitmap.AreJoined (first, y) (last, y')) ∧
    ((∀ count ∈ counts, count = 0) → ∀ x, bitmap.IsBlank x) := by
  intro bitmap count
  have runs (x : Nat) (inside : x < width) :
      ∃ top bottom, ∀ y, bitmap.isSet x y = true ↔ top ≤ y ∧ y < bottom :=
    exists_rows wide counts height inside
  have touch (x : Nat) (behind : x + 1 < width) (seen : ¬ bitmap.IsBlank x)
      (seen' : ¬ bitmap.IsBlank (x + 1)) : ∃ y y', bitmap.Adjoins (x, y) (x + 1, y') :=
    exists_adjoins wide counts height behind seen seen'
  refine ⟨runs, fun x inside => isBlank_iff wide counts height inside, touch, ?_,
    isBlank_of_zero wide height⟩
  intro first last order inside seen y y'
  refine areJoined_of_adjoins order (fun x _ upper => runs x (Nat.lt_of_le_of_lt upper inside))
    fun x lower upper => ?_
  exact touch x (Nat.lt_of_le_of_lt upper inside) (seen x lower (Nat.le_of_succ_le upper))
    (seen (x + 1) (Nat.le_succ_of_le lower) upper)

theorem ofCounts_polyline_peak :
    let bitmap := ofCounts #[0, 9, 1, 0, 0] 5 4
    2 ≤ 5 ∧ bitmap.AreJoined (0, 3) (2, 3) ∧ bitmap.IsBlank 3 := by
  intro bitmap
  have wide : 2 ≤ 5 := by decide
  obtain ⟨-, blank, -, joined, -⟩ := ofCounts_polyline wide #[0, 9, 1, 0, 0] 4
  have scaled : ∀ x < 3, ¬ ∀ value ∈ countsThrough (fun x => #[0, 9, 1, 0, 0].getD x 0) 5 x,
      value * 4 / peak #[0, 9, 1, 0, 0] = 0 := by decide
  refine ⟨wide, joined 0 2 (by decide) (by decide) (fun x _ upper => ?_) 3 3 rfl rfl,
    (blank 3 (by decide)).2 (by decide)⟩
  exact mt (blank x (by omega)).1 (scaled x (by omega))

end Bitmap

end LogQuery.Chart

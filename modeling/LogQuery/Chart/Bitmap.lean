/-! The line of a chart in pixels.

Each column joins its own count to the midpoints with its neighbours; rows are counted from the top.
-/

set_option autoImplicit false

namespace LogQuery.Chart

def peak (counts : Array Nat) : Nat := max (counts.toList.foldl max 0) 1

/-- The row at which a count is drawn. A count too small to show lies below the last row. -/
def rowOf (height peak count : Nat) : Nat := height - min (count * height / peak) height

/-- Does an upright stroke between two rows cover the row `y`? It covers its upper end, and its
lower end only where that is the same. -/
def strokeCovers (a b y : Nat) : Bool := y == min a b || (min a b < y && y < max a b)

abbrev Stroke := Nat × Nat

structure Bitmap where
  columns : Array (List Stroke)
  height : Nat
  deriving DecidableEq, Repr

namespace Bitmap

/-- The strokes of column `x` of `width`: to its own count from the midpoint with the column before,
and on to the midpoint with the column behind. `row` draws a count and `count` gives those of the
columns. -/
def strokesAt (row count : Nat → Nat) (width x : Nat) : List Stroke :=
  let own := row (count x)
  let middle (x' : Nat) : Nat := row ((count x + count x') / 2)
  (if 0 < x then [(middle (x - 1), own)] else []) ++
    (if x + 1 < width then [(own, middle (x + 1))] else [])

def ofCounts (counts : Array Nat) (width height : Nat) : Bitmap :=
  let most := peak counts
  ⟨Array.ofFn fun x : Fin width =>
    strokesAt (rowOf height most) (fun x => counts.getD x 0) width x, height⟩

def width (bitmap : Bitmap) : Nat := bitmap.columns.size

theorem width_ofCounts (counts : Array Nat) (width height : Nat) :
    (ofCounts counts width height).width = width := by
  simp [ofCounts, Bitmap.width]

def isSet (bitmap : Bitmap) (x y : Nat) : Bool :=
  y < bitmap.height && (bitmap.columns.getD x []).any fun (a, b) => strokeCovers a b y

end Bitmap

end LogQuery.Chart

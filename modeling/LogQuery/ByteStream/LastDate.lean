import LogQuery.Time.DateTime

/-! The last date in a region of whole lines.

The region is searched line by line from its end, so that usually one line is enough.
-/

set_option autoImplicit false

namespace LogQuery.ByteStream

def newline : UInt8 := 10

/-- Where the line begins that goes on up to `place`: behind the last newline before it, or at
`floor` if none is found from there on. -/
def lineStart (buffer : Array UInt8) (floor : Nat) : (place : Nat) → Nat
  | 0 => floor
  | place + 1 =>
    if place + 1 ≤ floor then floor
    else if buffer[place]? = some newline then place + 1
    else lineStart buffer floor place

theorem le_lineStart (buffer : Array UInt8) (floor place : Nat) :
    floor ≤ lineStart buffer floor place := by
  induction place with
  | zero => exact Nat.le_refl _
  | succ place ih => unfold lineStart; split <;> (try split) <;> omega

theorem lineStart_le (buffer : Array UInt8) {floor place : Nat} (h : floor ≤ place) :
    lineStart buffer floor place ≤ place := by
  induction place with
  | zero => simpa [lineStart] using h
  | succ place ih =>
    unfold lineStart
    split
    · exact h
    · split
      · omega
      · have := ih (by omega); omega

theorem lineStart_lt {buffer : Array UInt8} {floor place : Nat} (h : floor < place)
    (unended : buffer[place - 1]? ≠ some newline) : lineStart buffer floor place < place := by
  obtain ⟨place, rfl⟩ : ∃ n, place = n + 1 := ⟨place - 1, by omega⟩
  have := lineStart_le buffer (show floor ≤ place by omega)
  rw [lineStart]
  split
  · omega
  · rw [if_neg (by simpa using unended)]; omega

def lastLine (buffer : Array UInt8) (start stop : Nat) : Nat × Nat :=
  let lineStop := if buffer[stop - 1]? = some newline then stop - 1 else stop
  (lineStart buffer start lineStop, lineStop)

theorem lastLine_lt {buffer : Array UInt8} {start stop : Nat} (h : start < stop) :
    (lastLine buffer start stop).1 < stop := by
  unfold lastLine
  split
  · have := lineStart_le buffer (show start ≤ stop - 1 by omega)
    simp only; omega
  · rename_i unended
    exact lineStart_lt h unended

/-- The date of the last line in `buffer` that has one, of those between `start` and `stop`. Both
are ends of lines, or an end of the buffer. `dateOf` tells the date of a line. -/
def lastDate (dateOf : List UInt8 → Option Time.DateTime) (buffer : Array UInt8)
    (start stop : Nat) : Option Time.DateTime :=
  if _h : start < stop then
    let line := lastLine buffer start stop
    match dateOf (buffer.extract line.1 line.2).toList with
    | some date => some date
    | none => lastDate dateOf buffer start line.1
  else none
termination_by stop
decreasing_by exact lastLine_lt _h

end LogQuery.ByteStream

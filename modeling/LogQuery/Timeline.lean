import LogQuery.Text.Basic
import LogQuery.Time.Window

/-! Counts over the equal parts of a window of time. -/

set_option autoImplicit false

namespace LogQuery

structure Timeline where
  window : Time.Window
  counts : Array Nat
  deriving DecidableEq, Repr

namespace Timeline

def ofSize (window : Time.Window) (size : Nat) : Timeline := ⟨window, Array.replicate size 0⟩

def distance? (start finish : Time.DateTime) : Option Int :=
  let nanos := finish.since start
  if -(Text.signedLimit : Int) ≤ nanos && nanos < Text.signedLimit then some nanos else none

/-- The part of the window in which an instant lies. The window's end lies in none. -/
def bucket? (timeline : Timeline) (t : Time.DateTime) : Option Nat := do
  let span ← distance? timeline.window.start timeline.window.finish
  let position ← distance? timeline.window.start t
  if 0 ≤ position && position < span && timeline.counts.size ≠ 0 then
    some (position * timeline.counts.size / span).toNat
  else none

def add (timeline : Timeline) (t : Time.DateTime) (amount : Nat) : Timeline :=
  match timeline.bucket? t with
  | some place =>
    let counts := timeline.counts.modify place fun count => (count + amount) % Text.wordLimit
    { timeline with counts }
  | none => timeline

end Timeline

end LogQuery

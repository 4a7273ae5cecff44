import LogQuery.Time.DateTime

/-! Windows of time, which hold both their ends. -/

set_option autoImplicit false

namespace LogQuery.Time

structure Window where
  start : DateTime
  finish : DateTime
  deriving DecidableEq, Repr

inductive Placement where
  | before
  | within
  | after
  deriving DecidableEq, Repr

namespace Window

def place (window : Window) (t : DateTime) : Placement :=
  if t < window.start then .before
  else if window.finish < t then .after
  else .within

def contains (window : Window) (t : DateTime) : Bool := window.place t == .within

theorem contains_iff (window : Window) (t : DateTime) :
    window.contains t = true ↔ window.start ≤ t ∧ t ≤ window.finish := by
  unfold contains place
  split
  · rename_i early
    simp only [DateTime.lt_def, DateTime.le_def] at *
    simp; omega
  · rename_i notEarly
    split <;> rename_i late <;> simp only [DateTime.lt_def, DateTime.le_def] at * <;> simp <;> omega

def text (window : Window) : String := s!"[{window.start.text}, {window.finish.text}]"

end Window

end LogQuery.Time

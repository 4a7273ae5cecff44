import LogQuery.Time.Window

/-! A line of a log, with the time and the columns found in it. -/

set_option autoImplicit false

namespace LogQuery

structure Record where
  line : String
  time : Option Time.DateTime := none
  columns : List String := []
  deriving DecidableEq, Repr

namespace Record

/-- The text of a column, counted from 1; there is none at 0 and past the last. -/
def column (record : Record) (n : Nat) : String :=
  if n == 0 then "" else record.columns.getD (n - 1) ""

def isAtOrBefore (record : Record) (t : Time.DateTime) : Bool :=
  match record.time with
  | some own => own ≤ t
  | none => false

def joined (record : Record) : String := " ".intercalate record.columns

/-- What records are counted by: each column with a NUL behind it. -/
def key (record : Record) : String := String.join (record.columns.map fun column => column ++ "\x00")

def isWithin (record : Record) (window : Time.Window) : Bool :=
  match record.time with
  | some t => window.contains t
  | none => false

end Record

end LogQuery

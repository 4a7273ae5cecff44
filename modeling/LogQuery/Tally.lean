import LogQuery.Record
import Std.Data.HashMap

/-! How often each content of columns was seen. -/

set_option autoImplicit false

namespace LogQuery

structure Tally.Entry where
  columns : List String
  count : Nat
  deriving DecidableEq, Repr

/-- The contents seen so far in the order in which they first came, and the place of each by key. -/
structure Tally where
  index : Std.HashMap String Nat := {}
  entries : Array Tally.Entry := #[]
  total : Nat := 0

namespace Tally

def add (tally : Tally) (record : Record) : Tally :=
  let total := tally.total + 1
  match tally.index[record.key]? with
  | some place =>
    let entries := tally.entries.modify place fun entry => { entry with count := entry.count + 1 }
    { tally with entries, total }
  | none =>
    { index := tally.index.insert record.key tally.entries.size
      entries := tally.entries.push ⟨record.columns, 1⟩
      total }

def addAll (tally : Tally) (records : List Record) : Tally := records.foldl add tally

def size (tally : Tally) : Nat := tally.entries.size

def highest (tally : Tally) : Nat :=
  tally.entries.toList.foldl (fun most entry => max most entry.count) 0

/-- The entries from the highest count down; of equal counts the one first seen comes first. -/
def ranked (tally : Tally) : List Entry :=
  tally.entries.toList.mergeSort fun a b => b.count ≤ a.count

end Tally

end LogQuery

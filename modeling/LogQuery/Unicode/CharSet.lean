/-! Sets of characters as ranges of code points, and tables of characters written as text. -/

set_option autoImplicit false

namespace LogQuery.Unicode

def lastCode : Nat := 0x10FFFF

/-- A set of characters: inclusive ranges in ascending order, with a gap between any two. -/
structure CharSet where
  ranges : Array (Nat × Nat)
  deriving DecidableEq, Repr, Inhabited

namespace CharSet

def mergeOnto (merged : Array (Nat × Nat)) (ranges : List (Nat × Nat)) : Array (Nat × Nat) :=
  ranges.foldl (fun merged (first, last) =>
    if last < first then merged
    else match merged.back? with
      | some (start, stop) =>
        if first ≤ stop + 1 then merged.pop.push (start, max stop last) else merged.push (first, last)
      | none => merged.push (first, last)) merged

/-- The set of all characters in any of the ranges, which may come in any order and overlap. -/
def ofRanges (ranges : List (Nat × Nat)) : CharSet :=
  ⟨mergeOnto #[] (ranges.mergeSort fun a b => a.1 ≤ b.1)⟩

def empty : CharSet := ⟨#[]⟩

def all : CharSet := ⟨#[(0, lastCode)]⟩

def single (c : Char) : CharSet := ⟨#[(c.toNat, c.toNat)]⟩

def union (a b : CharSet) : CharSet := ofRanges (a.ranges.toList ++ b.ranges.toList)

def gapsFrom (start : Nat) : List (Nat × Nat) → List (Nat × Nat)
  | [] => if start ≤ lastCode then [(start, lastCode)] else []
  | (first, last) :: ranges =>
    if start < first then (start, first - 1) :: gapsFrom (last + 1) ranges
    else gapsFrom (last + 1) ranges

def negate (a : CharSet) : CharSet := ⟨(gapsFrom 0 a.ranges.toList).toArray⟩

def inter (a b : CharSet) : CharSet := (a.negate.union b.negate).negate

def diff (a b : CharSet) : CharSet := (a.negate.union b).negate

def symmDiff (a b : CharSet) : CharSet := (a.diff b).union (b.diff a)

def search (ranges : Array (Nat × Nat)) (code low high : Nat) : Bool :=
  if low < high then
    let middle := (low + high) / 2
    match ranges[middle]? with
    | some (first, last) =>
      if code < first then search ranges code low middle
      else if last < code then search ranges code (middle + 1) high
      else true
    | none => false
  else false
termination_by high - low

def containsCode (a : CharSet) (code : Nat) : Bool := search a.ranges code 0 a.ranges.size

def contains (a : CharSet) (c : Char) : Bool := a.containsCode c.toNat

end CharSet

def words (table : List String) : List String :=
  table.flatMap fun line => (line.splitOn " ").filter fun word => !word.isEmpty

def hexValue? (c : Char) : Option Nat :=
  if c.isDigit then some (c.toNat - '0'.toNat)
  else if 'a' ≤ c && c ≤ 'f' then some (c.toNat - 'a'.toNat + 10)
  else none

def readHex? (text : String) : Option Nat :=
  text.toList.foldlM (fun value c => (hexValue? c).map (value * 16 + ·)) 0

def readRange? (text : String) : Option (Nat × Nat) :=
  match text.splitOn "-" with
  | [code] => (readHex? code).map fun n => (n, n)
  | [first, last] => do some (← readHex? first, ← readHex? last)
  | _ => none

def charsListed (table : List String) : CharSet :=
  CharSet.ofRanges ((words table).filterMap readRange?)

structure Run where
  first : Nat
  value : String
  deriving DecidableEq, Repr, Inhabited

def readRuns (table : List String) : Array Run :=
  ((words table).filterMap fun word =>
    let (digits, value) := word.toList.span fun c => (hexValue? c).isSome
    (readHex? (String.ofList digits)).map fun first => ⟨first, String.ofList value⟩).toArray

/-- The value of the last run with index from `low` up to, not including, `high` that begins at or
before the code; `found` if there is none. -/
def searchRuns (runs : Array Run) (code : Nat) (found : String) (low high : Nat) : String :=
  if low < high then
    let middle := (low + high) / 2
    match runs[middle]? with
    | some run =>
      if run.first ≤ code then searchRuns runs code run.value (middle + 1) high
      else searchRuns runs code found low middle
    | none => found
  else found
termination_by high - low

def valueAt (runs : Array Run) (code : Nat) : String := searchRuns runs code "" 0 runs.size

def charsWithValue (runs : Array Run) (test : String → Bool) : CharSet :=
  let starts := runs.toList
  let ends := (starts.drop 1).map (·.first - 1) ++ [lastCode]
  CharSet.ofRanges <| (starts.zip ends).filterMap fun (run, last) =>
    if test run.value then some (run.first, last) else none

end LogQuery.Unicode

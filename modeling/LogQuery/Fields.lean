import LogQuery.Text.Basic
import LogQuery.Text.ControlPicture
import LogQuery.Unicode.Basic

/-! Selections of fields such as `1-3,5`: which columns are shown, and in which order. -/

set_option autoImplicit false

namespace LogQuery

/-- The end of a range that has none. It is also the largest number that can be written. -/
def openEnd : Nat := Text.wordLimit - 1

/-- A range of columns counted from 1, both ends included. -/
structure FieldRange where
  first : Nat
  last : Nat
  first_pos : 1 ≤ first
  first_le_last : first ≤ last
  last_le : last ≤ openEnd
  deriving DecidableEq, Repr

inductive FieldError where
  | invalid (item : String)
  | zero (item : String)
  | reversed (item : String)
  deriving DecidableEq, Repr

def FieldError.message : FieldError → String
  | invalid item => s!"invalid field range {Text.quoted item}"
  | zero item => s!"field numbers start at 1, got {Text.quoted item}"
  | reversed item => s!"field range {Text.quoted item} ends before it starts"

namespace FieldRange

def ofBounds? (first last : Nat) : Option FieldRange :=
  if h : 1 ≤ first ∧ first ≤ last ∧ last ≤ openEnd then some ⟨first, last, h.1, h.2.1, h.2.2⟩ else none

def all : FieldRange := ⟨1, openEnd, by decide, by decide, by decide⟩

def contains (range : FieldRange) (n : Nat) : Bool := range.first ≤ n && n ≤ range.last

def text (range : FieldRange) : String :=
  if range.first == range.last then toString range.first
  else if range.last == openEnd then s!"{range.first}-"
  else s!"{range.first}-{range.last}"

/-- The number of a field; errors name the whole item that it stands in. -/
def parseNumber (number item : List Char) : Except FieldError Nat :=
  match Text.readWord? (Unicode.trim number) with
  | none => .error (.invalid (String.ofList item))
  | some 0 => .error (.zero (String.ofList item))
  | some n => .ok n

def parseBounds (item : List Char) : Except FieldError (Nat × Nat) :=
  match item.span (· != '-') with
  | (_, []) => (parseNumber item item).map fun n => (n, n)
  | ([], [_]) => .error (.invalid (String.ofList item))
  | ([], _ :: last) => (parseNumber last item).map fun n => (1, n)
  | (first, [_]) => (parseNumber first item).map fun n => (n, openEnd)
  | (first, _ :: last) => do return (← parseNumber first item, ← parseNumber last item)

def parseItem (item : List Char) : Except FieldError FieldRange := do
  let trimmed := Unicode.trim item
  if trimmed.isEmpty then throw (.invalid (String.ofList item))
  let (first, last) ← parseBounds trimmed
  match ofBounds? first last with
  | some range => return range
  | none => throw (.reversed (String.ofList trimmed))

end FieldRange

abbrev Selection := List FieldRange

namespace Selection

/-- Items with commas between them. A blank text selects every column. -/
def parse (spec : String) : Except FieldError Selection :=
  if (Unicode.trim spec.toList).isEmpty then .ok [FieldRange.all]
  else (Text.splitAt ',' spec.toList).mapM FieldRange.parseItem

def isAll (selection : Selection) : Bool :=
  match selection with
  | [only] => only.first == 1 && only.last == openEnd
  | _ => false

def columnsIn (range : FieldRange) (columns : List String) : List String :=
  (columns.take range.last).drop (range.first - 1)

def project (selection : Selection) (columns : List String) : List String :=
  if isAll selection then columns
  else selection.flatMap fun range => columnsIn range columns

end Selection

end LogQuery

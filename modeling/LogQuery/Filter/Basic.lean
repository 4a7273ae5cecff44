import LogQuery.Record
import LogQuery.Regex.Search

/-! Filters: conditions on the columns of a record, their written form and their truth. -/

set_option autoImplicit false

namespace LogQuery

namespace Filter

inductive Comparison where
  | equal
  | notEqual
  | matching
  deriving DecidableEq, Repr

def Comparison.text : Comparison → String
  | equal => "=="
  | notEqual => "!="
  | matching => "~="

inductive Connective where
  | and
  | or
  deriving DecidableEq, Repr

def Connective.text : Connective → String
  | and => "AND"
  | or => "OR"

end Filter

inductive Filter where
  | literal (value : String)
  | column (n : Nat)
  /-- two texts compared; `pattern` is the right one made ready for searching, where that could be
  done beforehand -/
  | relation (op : Filter.Comparison) (left right : Filter) (pattern : Option Pattern)
  | logical (op : Filter.Connective) (left right : Filter)
  deriving Repr

namespace Filter

def escaped (value : List Char) : List Char :=
  value.flatMap fun c => if c == '"' || c == '\\' then ['\\', c] else [c]

def text : Filter → String
  | literal value => "\"" ++ String.ofList (escaped value.toList) ++ "\""
  | column n => s!"${n}"
  | relation op left right _ => s!"({left.text} {op.text} {right.text})"
  | logical op left right => s!"({left.text} {op.text} {right.text})"

def valueIn (record : Record) : Filter → String
  | literal value => value
  | column n => record.column n
  | relation .. => ""
  | logical .. => ""

section

variable [Regex.Engine]

/-- Does the pattern that `pattern` writes match within `value`? A text that writes no pattern
matches nothing. -/
def matchesText (value pattern : String) : Bool :=
  match Regex.Engine.compile? pattern with
  | some compiled => Regex.Engine.isMatch compiled value
  | none => false

def holds (record : Record) : Filter → Bool
  | literal _ => false
  | column _ => false
  | relation .equal left right _ => left.valueIn record == right.valueIn record
  | relation .notEqual left right _ => left.valueIn record != right.valueIn record
  | relation .matching left right pattern =>
    match pattern with
    | some compiled => Regex.Engine.isMatch compiled (left.valueIn record)
    | none => matchesText (left.valueIn record) (right.valueIn record)
  | logical .and left right => left.holds record && right.holds record
  | logical .or left right => left.holds record || right.holds record

end

/-- The same tree with no pattern made ready. -/
def withoutPatterns : Filter → Filter
  | literal value => literal value
  | column n => column n
  | relation op left right _ => relation op left.withoutPatterns right.withoutPatterns none
  | logical op left right => logical op left.withoutPatterns right.withoutPatterns

end Filter

end LogQuery

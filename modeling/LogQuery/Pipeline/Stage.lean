import LogQuery.Columns.Split
import LogQuery.Fields
import LogQuery.Filter.Basic
import LogQuery.Time.Recognizer

/-! The stages that a record goes through on its way from a line to the sink. -/

set_option autoImplicit false

namespace LogQuery.Pipeline

inductive Stage where
  /-- dates each line, carrying dates on to lines without one -/
  | dates (tagger : Time.Tagger)
  | columns
  | within (window : Time.Window)
  | holding (filter : Filter)
  | fields (selection : Selection)

namespace Stage

/-- What the stage makes of a record, if it passes it on, and the stage for the next record. -/
def step (stage : Stage) (record : Record) : Stage × Option Record :=
  match stage with
  | .dates tagger =>
    let (time, tagger) := tagger.tag record.line.toList
    (.dates tagger, some { record with time })
  | .columns => (stage, some { record with columns := Columns.ofLine record.line })
  | .within window => (stage, if record.isWithin window then some record else none)
  | .holding filter => (stage, if filter.holds record then some record else none)
  | .fields selection =>
    (stage, some { record with columns := selection.project record.columns })

def filterText? : Stage → Option String
  | .within window => some s!"time {window.text}"
  | .holding filter => some filter.text
  | _ => none

def runOnto (stage : Stage) (passed : Array Record) : List Record → Array Record
  | [] => passed
  | record :: rest =>
    match stage.step record with
    | (stage, some result) => stage.runOnto (passed.push result) rest
    | (stage, none) => stage.runOnto passed rest

def run (stage : Stage) (records : List Record) : List Record := (stage.runOnto #[] records).toList

end Stage

/-- The records that come through all stages, and for each stage that is a filter its text and the
number of records that it passed. -/
def runStages : List Stage → List Record → List (String × Nat) × List Record
  | [], records => ([], records)
  | stage :: stages, records =>
    let passed := stage.run records
    let (counts, results) := runStages stages passed
    match stage.filterText? with
    | some text => ((text, passed.length) :: counts, results)
    | none => (counts, results)

end LogQuery.Pipeline

import LogQuery.Pipeline.Query

/-! What a query finds when nothing is skipped: every line of the whole input is dated, split and
held against the window and the filters. -/

set_option autoImplicit false

namespace LogQuery.Pipeline.Query

def lastDate? (recognizer : Time.Recognizer) (lines : List String) : Option Time.DateTime :=
  (lines.filterMap fun line => recognizer.ofText line.toList).getLast?

/-- Lines with their columns, each dated by itself or else by the last line before it that has a
date. -/
def recordsOf (recognizer : Time.Recognizer) (lines : List String) : List Record :=
  lines.mapIdx fun place line =>
    { line
      time := lastDate? recognizer (lines.take (place + 1))
      columns := Columns.ofLine line }

def admits (query : Query) (record : Record) : Bool :=
  record.isWithin query.window && query.filters.all (·.holds record)

/-- The records that the query finds in an input that is looked at from its first line to its
last. -/
def fullScan (query : Query) (bytes : List UInt8) : List Record :=
  let lines := (ByteStream.linesOf bytes).map ByteStream.lineText
  ((recordsOf query.recognizer lines).filter query.admits).map fun record =>
    { record with columns := query.selection.project record.columns }

end LogQuery.Pipeline.Query

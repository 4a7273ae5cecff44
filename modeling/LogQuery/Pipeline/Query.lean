import LogQuery.ByteStream.Basic
import LogQuery.Filter.Parser
import LogQuery.Pipeline.Phase
import LogQuery.Pipeline.Stage
import LogQuery.SeekingReader
import LogQuery.Sink

/-! Queries: a window of time, filters and fields, put to a stream of log lines. -/

set_option autoImplicit false

namespace LogQuery.Pipeline

structure Query where
  window : Time.Window
  recognizer : Time.Recognizer
  filters : List Filter := []
  selection : Selection := [FieldRange.all]
  blockSize : Nat := SeekingReader.defaultBlockSize

structure FilterError where
  filter : String
  cause : Filter.ParseError
  deriving DecidableEq, Repr

def FilterError.message (e : FilterError) : String :=
  s!"bad filter {Text.quoted e.filter}: {e.cause.message}"

def parseFilters (texts : List String) : Except FilterError (List Filter) :=
  texts.mapM fun text => (Filter.parse text).mapError fun cause => ⟨text, cause⟩

structure Intake where
  lines : List String
  bytesRead : Nat
  bytesSkipped : Nat
  failure : Option Failure

def readSize : Nat := 8192

namespace Query

/-- The stages in order. The time filter comes before the others, and fields are selected last. -/
def stages (query : Query) : List Stage :=
  [.dates ⟨query.recognizer, none⟩, .columns, .within query.window] ++
    query.filters.map .holding ++ [.fields query.selection]

/-- The lines within and around the window. A line that a failure cuts off is left out. -/
def intake (query : Query) (stream : ByteStream) : Intake :=
  let reader :=
    SeekingReader.ofStream stream query.window query.recognizer.ofBytes query.blockSize
  let (bytes, failure, reader) := reader.drain readSize
  let lines := match failure with
    | none => ByteStream.linesOf bytes
    | some _ => (ByteStream.splitLines bytes).1
  { lines := lines.map ByteStream.lineText
    bytesRead := reader.bytesRead
    bytesSkipped := reader.bytesSkipped
    failure }

/-- Puts the query to a stream. The sink is offered every record that comes through the stages; the
counts are those of a sink that takes them all. -/
def run {σ ε : Type} (query : Query) (stream : ByteStream) (sink : Sink σ ε) (state : σ)
    (ticker : Ticker := .never) : σ × Except ε Summary :=
  let intake := query.intake stream
  let (passed, records) := runStages query.stages (intake.lines.map fun line => { line })
  let (state, result) := sink.run state (ticker.arrivals records)
  (state, result.map fun delivered =>
    { bytesRead := intake.bytesRead
      bytesSkipped := intake.bytesSkipped
      linesRead := intake.lines.length
      passed
      delivered
      streamError := intake.failure.map (·.message) })

end Query

end LogQuery.Pipeline

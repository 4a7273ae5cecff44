import LogQuery.Proofs.Pipeline.EndToEnd
import LogQuery.Proofs.Pipeline.Network.Counts

/-! What waiting for the processes of a query brings: what the query brings when its stages work one
after the other. -/

set_option autoImplicit false

namespace LogQuery.Pipeline

open ByteStream
open SeekingReader (flow_read read_failed isFresh_ofStream drain_eq exhaust_eq)

variable {σ ε : Type}

theorem except_map_map {α β γ : Type} (f : α → β) (g : β → γ) (result : Except ε α) :
    (result.map f).map g = result.map fun value => g (f value) := by
  cases result <;> rfl

namespace LineReader

def lastRead (source : LineReader) : Option Failure × SeekingReader :=
  match source.buffered.dropWhile (· != newline) with
  | _ :: _ => (none, source.reader)
  | [] =>
    match _read : source.reader.read readSize with
    | (.ok [], reader) => (none, reader)
    | (.ok (byte :: data), reader) => lastRead ⟨reader, byte :: data⟩
    | (.error cause, reader) => (some cause, reader)
termination_by source.reader.start.flow.1.length
decreasing_by
  rw [flow_read _read, List.length_append, List.length_cons]
  omega

/-- Where there is no further line, the attempt to read one comes to the reader's end. -/
theorem lastRead_eq {source : LineReader} (valid : source.IsValid)
    (unended : newline ∉ source.remaining) :
    source.lastRead = source.reader.start.flow.2.tellEnd := by
  have positive : 0 < readSize := by decide
  fun_induction lastRead source with
  | case1 source byte rest cut =>
    rw [remaining, cut_newline cut] at unended
    simp at unended
  | case2 source cut reader read =>
    obtain ⟨origin, given, reading⟩ := valid
    obtain ⟨flow, told, _⟩ := reading.read_none positive read
    rw [flow]
    exact told.symm
  | case3 source cut byte data reader read ih =>
    rw [remaining, flow_read read, List.mem_append, not_or] at unended
    rw [flow_read read]
    exact ih (valid.read read _) unended.2
  | case4 source cut cause reader read =>
    obtain ⟨_, told⟩ := read_failed read
    exact told.symm

theorem flow_readLine {source after : LineReader} (valid : source.IsValid)
    {line result : List UInt8} (read : source.readLine line = some (result, after)) :
    after.IsValid ∧ after.reader.start.flow.2 = source.reader.start.flow.2 := by
  have positive : 0 < readSize := by decide
  fun_induction readLine line source with
  | case1 line source held byte rest cut =>
    cases read
    exact ⟨valid, rfl⟩
  | case2 line source held cut reader reads =>
    cases read
    have next := valid.read reads []
    obtain ⟨origin, given, reading⟩ := valid
    obtain ⟨flow, _, final⟩ := reading.read_none positive reads
    refine ⟨next, ?_⟩
    rw [flow]
    exact congrArg Prod.snd final
  | case3 line source held cut byte data reader reads ih =>
    rw [flow_read reads]
    exact ih (valid.read reads _) read
  | case4 => cases read

theorem flow_readsTo {source after : LineReader} (valid : source.IsValid) {lines : List String}
    (reads : Network.ReadsTo next? source lines after) :
    after.IsValid ∧ after.reader.start.flow.2 = source.reader.start.flow.2 := by
  induction lines generalizing source with
  | nil =>
    cases reads
    exact ⟨valid, rfl⟩
  | cons line lines ih =>
    obtain ⟨behind, next, reads⟩ := reads
    rw [next?] at next
    split at next
    · cases next
    · next read =>
      cases next
      obtain ⟨validBehind, same⟩ := flow_readLine valid read
      rw [← same]
      exact ih validBehind reads
    · cases next

theorem unended_of_next? {source : LineReader} (valid : source.IsValid)
    (none_left : next? source = none) : newline ∉ source.remaining := by
  intro ended
  obtain ⟨front, rest, bytes, unbroken⟩ := List.eq_append_cons_of_mem ended
  obtain ⟨after, read, _⟩ := readLine_line valid unbroken bytes []
  rw [next?, read] at none_left
  cases front <;> cases none_left

end LineReader

/-- What is told of a query whose consumer has ended, when its intake has read the source to the
end. -/
def Network.summary? (network : Network LineReader σ ε) : Option (Except ε Summary) :=
  match network.downstream.last.phase with
  | .ended result =>
    let (failure, reader) := network.intake.source.lastRead
    some (result.map fun delivered =>
      { bytesRead := reader.bytesRead
        bytesSkipped := reader.bytesSkipped
        linesRead := network.intake.linesRead
        passed := network.passed
        delivered
        streamError := failure.map (·.message) })
  | _ => none

namespace Query

theorem valid_source (query : Query) (stream : ByteStream) : (query.source stream).IsValid :=
  ⟨_, _, .fresh (isFresh_ofStream ..)⟩

/-- What intake reads, how far it comes and with which failure it ends, is told by all that the
reader serves and by the reader at its end. -/
theorem intake_flow (query : Query) (stream : ByteStream) :
    let served := (query.source stream).reader.start.flow
    let last := served.2.tellEnd
    (query.intake stream).lines = (LineReader.linesUntil served.1 last.1).map lineText ∧
      (query.intake stream).failure = last.1 ∧
      (query.intake stream).bytesRead = last.2.bytesRead ∧
      (query.intake stream).bytesSkipped = last.2.bytesSkipped := by
  have fresh := isFresh_ofStream stream query.window query.recognizer.ofBytes query.blockSize
  have positive : ∀ _ : Nat, 0 < readSize := fun _ => by decide
  rw [intake, drain_eq fresh, exhaust_eq (.fresh fresh) positive]
  exact ⟨rfl, rfl, rfl, rfl⟩

def found (query : Query) (stream : ByteStream) : List Record :=
  results query.stages ((query.intake stream).lines.map fun line => { line })

def summary (query : Query) (stream : ByteStream) : Summary :=
  let intake := query.intake stream
  { bytesRead := intake.bytesRead
    bytesSkipped := intake.bytesSkipped
    linesRead := intake.lines.length
    passed := (runStages query.stages (intake.lines.map fun line => { line })).1
    delivered := (query.found stream).length
    streamError := intake.failure.map (·.message) }

theorem run_of_takesEvery (query : Query) (stream : ByteStream) {sink : Sink σ ε} {state : σ}
    {ticker : Ticker} (takesEvery : sink.TakesEvery state ticker) :
    query.run stream sink state ticker =
      let (last, result) := sink.finish (sink.after state (ticker.arrivals (query.found stream)))
      (last, result.map fun _ => query.summary stream) := by
  have offered := takesEvery.run (query.found stream)
  rw [found, results] at offered
  simp only [run, offered, Sink.close, found, results, summary, except_map_map]

/-- With a sink that takes every record, processes in whatever order bring the sink to the state in
which the stages one after the other leave it, and tell the same of it. -/
theorem summary_run (query : Query) (stream : ByteStream) {sink : Sink σ ε} {state : σ}
    {ticker : Ticker} (takesEvery : sink.TakesEvery state ticker) {capacity : Nat}
    (capacity_pos : 0 < capacity)
    {network : Network LineReader σ ε}
    (reaches : Network.Reaches ⟨capacity, capacity_pos, LineReader.next?, sink⟩
      (query.network stream state ticker) network) (finished : network.isFinished = true) :
    network.downstream.last.consumed = query.found stream ∧
      network.downstream.last.state = (query.run stream sink state ticker).1 ∧
      network.summary? = some (query.run stream sink state ticker).2 := by
  have completes := Network.completes_of_reaches (query.yields_intake stream) takesEvery reaches finished
  obtain ⟨valid, flow⟩ := LineReader.flow_readsTo (query.valid_source stream) completes.reads
  have last := LineReader.lastRead_eq valid (LineReader.unended_of_next? valid completes.exhausted)
  rw [flow] at last
  obtain ⟨-, failure, bytesRead, bytesSkipped⟩ := query.intake_flow stream
  rw [query.run_of_takesEvery stream takesEvery]
  refine ⟨completes.consumed, completes.lastState, ?_⟩
  rw [Network.summary?, completes.phase]
  simp only [last, completes.linesRead, completes.passed, summary, failure, bytesRead, bytesSkipped,
    found, results, except_map_map]

end Query

end LogQuery.Pipeline

import LogQuery.Proofs.Pipeline.Network.Composition
import LogQuery.Proofs.Pipeline.Network.Tapering
import LogQuery.Proofs.Pipeline.Waiting

/-! What is told of a query when its processes have ended, whether or not the sink took all that
there was: intake may have been stopped anywhere, and records may have been lost in the queues.
-/

set_option autoImplicit false

namespace LogQuery.Pipeline

open SeekingReader (threeDays secondDay inUtc)

variable {σ ε : Type}

namespace LineReader

/-- The failure and the reader that intake may leave behind when it ends: either it was stopped
between two lines, or it tried to read another line and there was none. -/
inductive Leaves (source : LineReader) : Option Failure → SeekingReader → Prop where
  | stopped : Leaves source none source.reader
  | readOut : next? source = none → Leaves source source.lastRead.1 source.lastRead.2

theorem valid_lastRead {source : LineReader} (valid : source.IsValid) :
    IsValid ⟨source.lastRead.2, []⟩ := by
  fun_induction lastRead source with
  | case1 => exact valid
  | case2 source cut reader read => exact valid.read read []
  | case3 source cut byte data reader read ih => exact ih (valid.read read _)
  | case4 source cut cause reader read => exact valid.read read []

theorem skipped_le_of_valid {source : LineReader} (valid : source.IsValid) :
    source.reader.bytesSkipped ≤ source.reader.bytesRead := by
  obtain ⟨origin, given, reading⟩ := valid
  obtain ⟨-, -, bytesRead⟩ := reading.piece
  omega

theorem Leaves.skipped_le {source : LineReader} (valid : source.IsValid) {failure : Option Failure}
    {reader : SeekingReader} (leaves : source.Leaves failure reader) :
    reader.bytesSkipped ≤ reader.bytesRead := by
  cases leaves with
  | stopped => exact skipped_le_of_valid valid
  | readOut => exact skipped_le_of_valid (valid_lastRead valid)

end LineReader

/-- May this be told of the query whose processes have all ended? -/
def Network.Tells (network : Network LineReader σ ε) (told : Except ε Summary) : Prop :=
  network.isFinished = true ∧
    ∃ outcome failure reader, network.downstream.last.phase = .ended outcome ∧
      network.intake.source.Leaves failure reader ∧
      told = outcome.map fun delivered =>
        { bytesRead := reader.bytesRead
          bytesSkipped := reader.bytesSkipped
          linesRead := network.intake.linesRead
          passed := network.passed
          delivered
          streamError := failure.map (·.message) }

/-- Whatever the stream, however small the queues and in whatever order the processes run, and
wherever the sink stops: what is told counts no more records behind a process than in front of it,
it counts no more bytes as skipped than as read, names the time filter and then the others, and
counts as delivered what the sink was handed, which with the updates among it has brought the sink
to its state. -/
theorem Query.tells_descending (query : Query) (stream : ByteStream) {sink : Sink σ ε} {state : σ}
    {ticker : Ticker} {capacity : Nat} (capacity_pos : 0 < capacity) {network : Network LineReader σ ε}
    (reaches : Network.Reaches ⟨capacity, capacity_pos, LineReader.next?, sink⟩
      (query.network stream state ticker) network)
    {summary : Summary} (tells : network.Tells (.ok summary)) :
    let handed := network.downstream.last.consumed
    (summary.linesRead :: (summary.passed.map (·.2) ++ [summary.delivered])).Pairwise (· ≥ ·) ∧
      summary.bytesSkipped ≤ summary.bytesRead ∧
      summary.passed.map (·.1) = s!"time {query.window.text}" :: query.filters.map (·.text) ∧
      summary.delivered = handed.length ∧
      ∃ met, met <+: ticker.arrivals handed ∧ met.filterMap Arrival.record? = handed ∧
        network.downstream.last.state = (sink.finish (sink.after state met)).1 := by
  intro handed
  have tallies := Network.tallies_of_reaches reaches
  have follows := Network.follows_of_reaches reaches
  obtain ⟨-, outcome, failure, reader, phase, leaves, told⟩ := tells
  cases outcome with
  | error e => cases told
  | ok delivered =>
    have told := Except.ok.inj told
    subst told
    -- what the consumer counts is what it was handed, with ticks of the ticker among it
    have accounts := tallies.accounts
    simp only [Network.Consumer.Accounts, phase] at accounts
    obtain ⟨rfl, met, before, meets, lastState⟩ := accounts
    obtain ⟨lines, reads, -⟩ := follows.outlook
    have valid := (LineReader.flow_readsTo (query.valid_source stream) reads).1
    refine ⟨tallies.descend, leaves.skipped_le valid, ?_, rfl,
      met, meets.met_prefix, meets.records_met, meets.state ▸ lastState⟩
    rw [Network.texts_passed, tallies.filterTexts, query.filterTexts]

theorem Query.tells_firstOnly :
    let query : Query := {
      window := { secondDay with finish := ⟨1578095999, Time.toNano 0, 0⟩ }
      recognizer := inUtc
      filters := [.relation .notEqual (.column 3) (.literal "d") none]
      blockSize := 16 }
    let setup : Network.Setup LineReader Collector Failure :=
      ⟨1, by decide, LineReader.next?, Collector.sink⟩
    let network := (query.network threeDays { stopAfter := some 1 } .never).follow setup
      (List.replicate 99 0)
    ∃ summary, network.Tells (.ok summary) ∧
      summary.linesRead = 2 ∧ summary.passed.map (·.2) = [2, 2] ∧
      [2, 2, 2, summary.delivered].Pairwise (· ≥ ·) ∧ summary.delivered = 1 := by
  intro query setup network
  obtain ⟨finished, read, passed, handed, counts⟩ : network.isFinished = true ∧
      network.intake.linesRead = 2 ∧ network.passed.map (·.2) = [2, 2] ∧
      network.downstream.last.consumed.length = 1 ∧
      network.summary?.any Except.isOk = true := by decide +kernel
  obtain ⟨delivered, phase⟩ :
      ∃ delivered, network.downstream.last.phase = .ended (.ok delivered) := by
    rw [Network.summary?] at counts
    cases phase : network.downstream.last.phase with
    | ended outcome =>
      cases outcome with
      | ok delivered => exact ⟨delivered, rfl⟩
      | error cause =>
        rw [phase] at counts
        cases counts
    | consuming | finishing | stopping =>
      rw [phase] at counts
      cases counts
  have tells : network.Tells (.ok _) := ⟨finished, .ok delivered, _, _, phase, .stopped, rfl⟩
  obtain ⟨descending, -, -, counted, -⟩ := query.tells_descending threeDays (by decide)
    (Network.reaches_follow ..) tells
  refine ⟨_, tells, read, passed, ?_, counted.trans handed⟩
  rw [read, passed] at descending
  exact descending

end LogQuery.Pipeline

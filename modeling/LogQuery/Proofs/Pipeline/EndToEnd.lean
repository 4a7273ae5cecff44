import LogQuery.Proofs.Pipeline.LineReader
import LogQuery.Proofs.Pipeline.Network.Progress
import LogQuery.Proofs.Pipeline.Network.Termination
import LogQuery.Proofs.SeekingReader.Window

/-! Neither the skipping of blocks nor the order in which the processes run changes what a query
finds in lines that are in the order of their dates. -/

set_option autoImplicit false

namespace LogQuery.Pipeline

open ByteStream (dates)
open SeekingReader (threeDays secondDay inUtc)

variable {σ ε : Type}

def Query.network (query : Query) (stream : ByteStream) (state : σ) (ticker : Ticker) :
    Network LineReader σ ε :=
  .ofStages query.stages (query.source stream) state ticker

/-- What is found in a stream whose dates never go back is what a look at each of its lines finds,
in the same order and with the same dates and columns: by the stages one after the other, and by
processes side by side in whatever order they run, which always come to an end. Updates of the sink
among the records make no difference to what is found. -/
theorem Query.finds_fullScan (query : Query) {stream : ByteStream}
    (unbroken : stream.readAll.2 = none)
    (ordered : (dates query.recognizer.ofBytes stream.readAll.1).Pairwise (· ≤ ·))
    {sink : Sink σ ε} {state : σ} {ticker : Ticker} (takesEvery : sink.TakesEvery state ticker)
    {capacity : Nat} (capacity_pos : 0 < capacity) :
    let found := query.fullScan stream.readAll.1
    let setup : Network.Setup LineReader σ ε := ⟨capacity, capacity_pos, LineReader.next?, sink⟩
    (query.run stream sink state ticker).1 =
        (sink.finish (sink.after state (ticker.arrivals found))).1 ∧
      (query.network stream state ticker).Terminates setup ∧
      ∀ network, Network.Reaches setup (query.network stream state ticker) network →
        network.downstream.last.consumed <+: found ∧
          (network.steps setup = [] →
            network.isFinished = true ∧ network.downstream.last.consumed = found) := by
  intro found setup
  have results_found : results query.stages
      ((query.intake stream).lines.map fun line => { line }) = found :=
    results_intake unbroken ordered
  have yields : Network.Yields setup.next? (query.source stream) (query.intake stream).lines :=
    query.yields_intake stream
  refine ⟨?_, Network.terminates_of_yields yields, ?_⟩
  · have offered := takesEvery.run found
    rw [← results_found] at offered ⊢
    simp only [Query.run]
    rw [results] at offered ⊢
    rw [offered]
    rfl
  · intro network reaches
    have follows := Network.follows_of_reaches reaches
    obtain ⟨onTheWay, inTheEnd⟩ := follows.consumed yields
    rw [results_found, takesEvery found] at onTheWay inTheEnd
    refine ⟨onTheWay, fun stuck => ?_⟩
    have finished := follows.finished stuck
    refine ⟨finished, inTheEnd ?_⟩
    rw [Network.isFinished, Bool.and_eq_true] at finished
    exact finished.2

theorem secondDay_found :
    let query : Query := { window := secondDay, recognizer := inUtc, blockSize := 16 }
    let found : List Record :=
      [⟨"2020-01-02 09:00:00 b", some ⟨1577955600, Time.toNano 0, 0⟩, ["2020-01-02", "09:00:00", "b"]⟩]
    let setup : Network.Setup LineReader Collector Failure :=
      ⟨1, by decide, LineReader.next?, Collector.sink⟩
    let ticker : Ticker := fun _ => 1
    (query.run threeDays Collector.sink {} ticker).1.kept.toList = found ∧
      (query.network threeDays {} ticker).Terminates setup ∧
      ∀ network, Network.Reaches setup (query.network threeDays {} ticker) network →
        network.downstream.last.consumed <+: found ∧
          (network.steps setup = [] →
            network.isFinished = true ∧ network.downstream.last.consumed = found) := by
  intro query found setup ticker
  have scanned : query.fullScan threeDays.readAll.1 = found := by decide +kernel
  obtain ⟨state, network⟩ := @Query.finds_fullScan Collector Failure query threeDays rfl
    (by decide +kernel) Collector.sink {} ticker (Collector.takesEvery rfl rfl ticker) 1 (by decide)
  rw [scanned] at state network
  refine ⟨?_, network⟩
  rw [state]
  exact (Collector.kept_after rfl rfl _).trans (ticker.records_arrivals found)

end LogQuery.Pipeline

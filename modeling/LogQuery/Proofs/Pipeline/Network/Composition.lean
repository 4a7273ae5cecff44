import LogQuery.Proofs.Pipeline.Network.Counts
import LogQuery.Proofs.SeekingReader.Reads

/-! Processes side by side do what their stages do one after the other, in whatever order the
processes take their steps. -/

set_option autoImplicit false

namespace LogQuery.Pipeline

open SeekingReader (secondDay inUtc)

variable {ι σ ε : Type}

theorem texts_runStages (stages : List Stage) (records : List Record) :
    (runStages stages records).1.map (·.1) = stages.filterMap Stage.filterText? := by
  induction stages generalizing records with
  | nil => rfl
  | cons stage stages ih =>
    rw [runStages_cons, List.map_append, ih, List.filterMap_cons]
    cases stage.filterText? <;> rfl

theorem Query.filterTexts (query : Query) :
    query.stages.filterMap Stage.filterText? =
      s!"time {query.window.text}" :: query.filters.map (·.text) := by
  have texts : (query.filters.map Stage.holding).filterMap Stage.filterText? =
      query.filters.map (·.text) := by
    rw [List.filterMap_map]
    exact congrFun List.filterMap_eq_map _
  rw [stages, List.filterMap_append, List.filterMap_append, texts]
  exact congrArg (_ :: ·) (List.append_nil _)

namespace Network

/-- A sink that takes every record, with whatever updates among them, is handed the records that the
stages make of the lines one after the other: in any state on the way the first of them, and in the
end, to which every run comes, all of them. The counts are those of the stages then. -/
theorem composes (setup : Setup ι σ ε) (stages : List Stage) {origin : ι} {lines : List String}
    (yields : Yields setup.next? origin lines) {state : σ} {ticker : Ticker}
    (takesEvery : setup.sink.TakesEvery state ticker) :
    let records : List Record := lines.map fun line => { line }
    let goal := results stages records
    let start : Network ι σ ε := ofStages stages origin state ticker
    start.Terminates setup ∧
      ∀ network, Reaches setup start network →
        network.downstream.last.consumed <+: goal ∧
          (network.steps setup = [] → network.isFinished = true) ∧
          (network.isFinished = true →
            network.downstream.last.consumed = goal ∧
              network.intake.linesRead = lines.length ∧
              network.passed = (runStages stages records).1 ∧
              (∀ query : Query, stages = query.stages → network.passed.map (·.1) =
                s!"time {query.window.text}" :: query.filters.map (·.text)) ∧
              network.downstream.last.phase =
                .ended ((setup.sink.finish (setup.sink.after state (ticker.arrivals goal))).2.map
                  fun _ => goal.length)) := by
  intro records goal start
  refine ⟨terminates_of_yields yields, fun network reaches => ?_⟩
  have follows := follows_of_reaches reaches
  have onTheWay := (follows.consumed yields).1
  rw [takesEvery] at onTheWay
  refine ⟨onTheWay, follows.finished, fun finished => ?_⟩
  have completes := completes_of_reaches yields takesEvery reaches finished
  refine ⟨completes.consumed, completes.linesRead, completes.passed, ?_, completes.phase⟩
  rintro query rfl
  rw [completes.passed, texts_runStages, query.filterTexts]

def nextOf : List String → Option (String × List String)
  | [] => none
  | line :: lines => some (line, lines)

theorem yields_nextOf (lines : List String) : Yields nextOf lines lines := by
  induction lines with
  | nil => rfl
  | cons line lines ih => exact ⟨lines, rfl, ih⟩

theorem composes_secondDay :
    let query : Query := {
      window := secondDay
      recognizer := inUtc
      filters := [.relation .equal (.column 3) (.literal "b") none] }
    let setup : Setup (List String) Collector Failure := ⟨1, by decide, nextOf, Collector.sink⟩
    let lines := ["2020-01-01 09:00:00 b", "2020-01-02 09:00:00 b", "c", "2020-01-03 09:00:00 b"]
    let network := (ofStages query.stages lines {} fun _ => 1).follow setup (List.replicate 99 0)
    network.downstream.last.consumed.map (·.line) = ["2020-01-02 09:00:00 b"] ∧
      network.intake.linesRead = 4 ∧ network.passed.map (·.2) = [2, 1] ∧
      network.passed.map (·.1) = [s!"time {secondDay.text}", "($3 == \"b\")"] ∧
      network.downstream.last.hasEnded = true := by
  intro query setup lines network
  have takesEvery : Collector.sink.TakesEvery {} fun _ => 1 := Collector.takesEvery rfl rfl _
  obtain ⟨-, every⟩ := composes setup query.stages (yields_nextOf lines) takesEvery
  obtain ⟨-, -, inTheEnd⟩ := every network (reaches_follow ..)
  obtain ⟨consumed, read, passed, texts, phase⟩ := inTheEnd (by decide +kernel)
  have expected : (results query.stages (lines.map fun line => { line })).map (·.line) =
      ["2020-01-02 09:00:00 b"] ∧
      (runStages query.stages (lines.map fun line => { line })).1.map (·.2) = [2, 1] := by
    decide +kernel
  refine ⟨?_, read, ?_, texts query rfl, ?_⟩
  · rw [consumed]
    exact expected.1
  · rw [passed]
    exact expected.2
  · rw [Consumer.hasEnded, phase]

end Network

end LogQuery.Pipeline

import LogQuery.Pipeline.FullScan
import LogQuery.Collector

/-! What the stages of a query make of its lines, one stage after the other. -/

set_option autoImplicit false

namespace LogQuery.Pipeline

namespace Stage

theorem runOnto_eq (stage : Stage) (passed : Array Record) (records : List Record) :
    stage.runOnto passed records = passed ++ stage.run records := by
  induction records generalizing stage passed with
  | nil => simp [run, runOnto]
  | cons record records ih =>
    rw [run, runOnto, runOnto]
    rcases stage.step record with ⟨next, _ | result⟩
    · simp [ih next]
    · simp [ih next]

@[simp] theorem run_nil (stage : Stage) : stage.run [] = [] := rfl

theorem run_cons (stage : Stage) (record : Record) (records : List Record) :
    stage.run (record :: records) =
      (stage.step record).2.toList ++ (stage.step record).1.run records := by
  rw [run, runOnto]
  rcases stage.step record with ⟨next, _ | result⟩
  · simp [runOnto_eq]
  · simp [runOnto_eq]

theorem run_columns (records : List Record) :
    columns.run records =
      records.map fun record => { record with columns := Columns.ofLine record.line } := by
  induction records with
  | nil => rfl
  | cons record records ih => rw [run_cons, List.map_cons, ← ih]; rfl

theorem run_within (window : Time.Window) (records : List Record) :
    (within window).run records = records.filter (·.isWithin window) := by
  induction records with
  | nil => rfl
  | cons record records ih =>
    rw [run_cons, List.filter_cons, ← ih]
    simp only [step]
    split <;> rfl

theorem run_holding (filter : Filter) (records : List Record) :
    (holding filter).run records = records.filter fun record => filter.holds record := by
  induction records with
  | nil => rfl
  | cons record records ih =>
    rw [run_cons, List.filter_cons, ← ih]
    simp only [step]
    split <;> rfl

theorem run_fields (selection : Selection) (records : List Record) :
    (fields selection).run records =
      records.map fun record => { record with columns := selection.project record.columns } := by
  induction records with
  | nil => rfl
  | cons record records ih => rw [run_cons, List.map_cons, ← ih]; rfl

end Stage

/-! ### Several stages -/

def results (stages : List Stage) (records : List Record) : List Record :=
  (runStages stages records).2

@[simp] theorem results_nil (records : List Record) : results [] records = records := rfl

theorem results_cons (stage : Stage) (stages : List Stage) (records : List Record) :
    results (stage :: stages) records = results stages (stage.run records) := by
  rw [results, runStages, results]
  dsimp only
  split <;> rfl

theorem results_append (first second : List Stage) (records : List Record) :
    results (first ++ second) records = results second (results first records) := by
  induction first generalizing records with
  | nil => rfl
  | cons stage first ih => rw [List.cons_append, results_cons, results_cons, ih]

theorem results_holding (filters : List Filter) (records : List Record) :
    results (filters.map .holding) records =
      records.filter fun record => filters.all (·.holds record) := by
  induction filters generalizing records with
  | nil => exact (List.filter_eq_self.2 fun _ _ => rfl).symm
  | cons filter filters ih =>
    rw [List.map_cons, results_cons, ih, Stage.run_holding, List.filter_filter]
    simp only [List.all_cons, Bool.and_comm]

namespace Query

/-- Lines with their columns, dated by a tagger that has seen other lines before. -/
def recordsFrom (tagger : Time.Tagger) : List String → List Record
  | [] => []
  | line :: lines =>
    { line, time := (tagger.tag line.toList).1, columns := Columns.ofLine line } ::
      recordsFrom (tagger.tag line.toList).2 lines

theorem lastDate?_cons (recognizer : Time.Recognizer) (line : String) (lines : List String) :
    lastDate? recognizer (line :: lines) =
      (lastDate? recognizer lines).or (recognizer.ofText line.toList) := by
  rw [lastDate?, lastDate?, List.filterMap_cons]
  cases recognizer.ofText line.toList with
  | none => rw [Option.or_none]
  | some own =>
    rw [List.getLast?_cons]
    cases (lines.filterMap fun line => recognizer.ofText line.toList).getLast? <;> rfl

/-- A tagger dates each line by the last dated line up to it, or else by what it carries. -/
theorem recordsFrom_eq (tagger : Time.Tagger) (lines : List String) :
    recordsFrom tagger lines = lines.mapIdx fun place line =>
      { line
        time := (lastDate? tagger.recognizer (lines.take (place + 1))).or tagger.last
        columns := Columns.ofLine line } := by
  induction lines generalizing tagger with
  | nil => rfl
  | cons line lines ih =>
    rw [recordsFrom, ih, List.mapIdx_cons]
    simp only [Time.Tagger.tag, List.take_succ_cons, lastDate?_cons, Option.or_assoc]
    rfl

theorem recordsOf_eq (recognizer : Time.Recognizer) (lines : List String) :
    recordsOf recognizer lines = recordsFrom ⟨recognizer, none⟩ lines := by
  rw [recordsFrom_eq, recordsOf]
  simp only [Option.or_none]

theorem run_dates (tagger : Time.Tagger) (lines : List String) :
    (Stage.columns).run ((Stage.dates tagger).run (lines.map fun line => { line })) =
      recordsFrom tagger lines := by
  induction lines generalizing tagger with
  | nil => rfl
  | cons line lines ih =>
    rw [List.map_cons, Stage.run_cons, recordsFrom, ← ih]
    simp only [Stage.step, Option.toList_some, List.singleton_append, Stage.run_columns,
      List.map_cons]

/-- The stages keep the records that the query admits, in order, with the selected columns. -/
theorem results_stages (query : Query) (lines : List String) :
    results query.stages (lines.map fun line => { line }) =
      ((recordsOf query.recognizer lines).filter query.admits).map fun record =>
        { record with columns := query.selection.project record.columns } := by
  have dated : results [.dates ⟨query.recognizer, none⟩, .columns, .within query.window]
      (lines.map fun line => { line }) =
        (recordsOf query.recognizer lines).filter (·.isWithin query.window) := by
    rw [results_cons, results_cons, results_cons, results_nil, run_dates, Stage.run_within,
      recordsOf_eq]
  rw [stages, results_append, results_append, dated, results_holding, List.filter_filter,
    results_cons, results_nil, Stage.run_fields]
  congr 2
  funext record
  exact Bool.and_comm _ _

end Query

end LogQuery.Pipeline

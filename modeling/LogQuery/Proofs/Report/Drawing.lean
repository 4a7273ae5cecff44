import LogQuery.Proofs.Sink.Protocol
import LogQuery.Report.Basic

/-! Tables and charts are drawn in the end as if they had never been drawn before. -/

set_option autoImplicit false

namespace LogQuery

namespace Report

def draws : Report → Bool
  | .uniq .. | .plot .. => true
  | _ => false

def takeAll (report : Report) (records : List Record) : Report :=
  records.foldl (fun report record => (report.consume record).1) report

/-- What is written when rows are drawn again and again, each time in place of those before. -/
def redrawn : (drawn : Nat) → (frames : List (List String)) → String
  | _, [] => ""
  | drawn, rows :: frames => rewind drawn ++ asLines rows ++ redrawn rows.length frames

section

variable {report : Report}

theorem draws_withDrawn (drawn : Nat) : (report.withDrawn drawn).draws = report.draws := by
  cases report <;> rfl

theorem rows_withDrawn (drawn : Nat) : (report.withDrawn drawn).rows = report.rows := by
  cases report <;> rfl

theorem withDrawn_withDrawn (first second : Nat) :
    (report.withDrawn first).withDrawn second = report.withDrawn second := by
  cases report <;> rfl

theorem consume_withDrawn (drawn : Nat) (record : Record) :
    ((report.withDrawn drawn).consume record).1 = (report.consume record).1.withDrawn drawn := by
  cases report with
  | inspect count written =>
    simp only [withDrawn, consume]
    split <;> rfl
  | _ => rfl

theorem takeAll_withDrawn (drawn : Nat) (records : List Record) :
    (report.withDrawn drawn).takeAll records = (report.takeAll records).withDrawn drawn := by
  induction records generalizing report with
  | nil => rfl
  | cons record records ih =>
    rw [takeAll, List.foldl_cons, consume_withDrawn]
    exact ih

theorem drawn_withDrawn (draws : report.draws = true) (drawn : Nat) :
    (report.withDrawn drawn).drawn = drawn := by
  cases report with
  | uniq | plot => rfl
  | _ => cases draws

theorem consume_of_draws (draws : report.draws = true) (record : Record) :
    ∃ next, report.consume record = (next, "") ∧ next.draws = true ∧ next.drawn = report.drawn := by
  cases report with
  | uniq | plot => exact ⟨_, rfl, rfl, rfl⟩
  | _ => cases draws

theorem wantsMore_of_draws (draws : report.draws = true) : report.wantsMore = true := by
  cases report with
  | uniq | plot => rfl
  | _ => cases draws

/-- However often it is drawn on the way, all records are taken, and the rows in the end are those
of the records. -/
theorem runFrom_of_draws (draws : report.draws = true) (written : String) (taken : Nat)
    (arrivals : List Arrival) :
    let records := arrivals.filterMap Arrival.record?
    ∃ frames, Report.sink.runFrom (report, written) taken arrivals =
      (((report.takeAll records).withDrawn 0,
        written ++ redrawn report.drawn (frames ++ [(report.takeAll records).rows])),
        .ok (taken + records.length)) := by
  induction arrivals generalizing report written taken with
  | nil =>
    refine ⟨[], ?_⟩
    simp [Sink.runFrom, Sink.close, Report.sink, finish, takeAll, redrawn, Except.map]
  | cons arrival arrivals ih =>
    have wants := wantsMore_of_draws draws
    cases arrival with
    | record record =>
      obtain ⟨next, consumes, stays, sameDrawn⟩ := consume_of_draws draws record
      obtain ⟨frames, runs⟩ := ih stays written (taken + 1)
      refine ⟨frames, ?_⟩
      have further (records : List Record) : report.takeAll (record :: records) =
          next.takeAll records := by
        rw [takeAll, List.foldl_cons, consumes]
        rfl
      have offered : (Arrival.record record :: arrivals).filterMap Arrival.record? =
          record :: arrivals.filterMap Arrival.record? := rfl
      rw [offered, further, List.length_cons, Nat.add_comm _ 1, ← Nat.add_assoc, ← sameDrawn]
      refine Eq.trans ?_ runs
      simp [Sink.runFrom, Report.sink, wants, consumes, wantsMore_of_draws stays]
    | tick =>
      -- the update changes only how many rows stand on the screen, and that is forgotten in the end
      obtain ⟨frames, runs⟩ := ih ((draws_withDrawn report.rows.length).trans draws)
        (written ++ report.update.2) taken
      refine ⟨report.rows :: frames, ?_⟩
      rw [takeAll_withDrawn, rows_withDrawn, withDrawn_withDrawn, drawn_withDrawn draws] at runs
      rw [List.cons_append, redrawn, ← String.append_assoc]
      refine Eq.trans ?_ runs
      simp [Sink.runFrom, Report.sink, wants, update]

end

theorem takeAll_uniq (style : TableStyle) (tally : Tally) (drawn : Nat) (records : List Record) :
    (uniq style tally drawn).takeAll records = uniq style (tally.addAll records) drawn := by
  induction records generalizing tally with
  | nil => rfl
  | cons record records ih => exact ih (tally.add record)

theorem takeAll_plot (layout : Chart.Layout) (live : Bool) (timeline : Timeline) (drawn : Nat)
    (records : List Record) :
    (plot layout live timeline drawn).takeAll records =
      plot layout live ((records.filterMap (·.time)).foldl (·.add · 1) timeline) drawn := by
  induction records generalizing timeline with
  | nil => rfl
  | cons record records ih =>
    rw [takeAll, List.foldl_cons, List.filterMap_cons]
    cases time : record.time <;> simp only [consume, time] <;> exact ih _

end Report

/-- Whatever a sink answers, and whenever it is asked to update, the calls of a run keep to the
rules, and the result is the first failure or the number of records handed over. The table or the
chart that is drawn in the end, in place of the last one before, depends on the records alone. -/
theorem Sink.run_keepsRules :
    (∀ (σ ε : Type) (sink : Sink σ ε) (start : σ) (arrivals : List Arrival),
      ∃ final log result, sink.recording.run (start, []) arrivals = ((final, log), result) ∧
        sink.run start arrivals = (final, result) ∧
        sink.KeepsRules start (arrivals.filterMap Arrival.record?) log final ∧
        result = (log.findSome? (·.2.failure?)).elim (.ok log.consumed.length) .error) ∧
    (∀ (style : Report.TableStyle) (tally : Tally) (drawn : Nat) (written : String)
      (arrivals : List Arrival),
      let records := arrivals.filterMap Arrival.record?
      let counted := tally.addAll records
      ∃ frames, Report.sink.run (.uniq style tally drawn, written) arrivals =
        ((.uniq style counted 0,
          written ++ Report.redrawn drawn (frames ++ [Report.tableRows style counted])),
          .ok records.length)) ∧
    ∀ (layout : Chart.Layout) (live : Bool) (timeline : Timeline) (drawn : Nat) (written : String)
      (arrivals : List Arrival),
      let records := arrivals.filterMap Arrival.record?
      let counted := (records.filterMap (·.time)).foldl (·.add · 1) timeline
      ∃ frames, Report.sink.run (.plot layout live timeline drawn, written) arrivals =
        ((.plot layout live counted 0,
          written ++ Report.redrawn drawn (frames ++ [layout.render counted.counts])),
          .ok records.length) := by
  refine ⟨fun σ ε sink start arrivals => ?_, fun style tally drawn written arrivals => ?_,
    fun layout live timeline drawn written arrivals => ?_⟩
  · obtain ⟨final, log, runs, rules⟩ := keepsRules_runFrom sink start [] 0 arrivals
    have plain := runFrom_recording sink start [] 0 arrivals
    rw [runs] at plain
    refine ⟨final, log, log.outcome 0, runs, plain, rules, ?_⟩
    rw [Log.outcome, Nat.zero_add]
  · have draws : (Report.uniq style tally drawn).draws = true := rfl
    obtain ⟨frames, runs⟩ := Report.runFrom_of_draws draws written 0 arrivals
    rw [Report.takeAll_uniq, Nat.zero_add] at runs
    exact ⟨frames, runs⟩
  · have draws : (Report.plot layout live timeline drawn).draws = true := rfl
    obtain ⟨frames, runs⟩ := Report.runFrom_of_draws draws written 0 arrivals
    rw [Report.takeAll_plot, Nat.zero_add] at runs
    exact ⟨frames, runs⟩

end LogQuery

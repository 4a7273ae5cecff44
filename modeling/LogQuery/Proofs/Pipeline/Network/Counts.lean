import LogQuery.Proofs.Pipeline.Network.Progress
import LogQuery.Proofs.Pipeline.Network.Termination

/-! What the processes count when the sink takes every record.

Nothing is refused then: a process ends only when its queue is closed and empty. So intake reads its
source to the end, and each worker passes all that its stage makes of what comes to it.
-/

set_option autoImplicit false

namespace LogQuery.Pipeline

variable {ι σ ε : Type}

theorem Stage.filterText?_step (stage : Stage) (record : Record) :
    (stage.step record).1.filterText? = stage.filterText? := by
  cases stage <;> rfl

theorem runStages_cons (stage : Stage) (stages : List Stage) (records : List Record) :
    (runStages (stage :: stages) records).1 =
      (stage.filterText?.map fun text => (text, (stage.run records).length)).toList ++
        (runStages stages (stage.run records)).1 := by
  rw [runStages]
  dsimp only
  cases stage.filterText? <;> rfl

namespace Network

/-- The records that the worker will have passed in the end beside those that it has passed, if
`input` is still to come and none is refused. -/
def Worker.toPass (w : Worker) (input : List Record) : List Record :=
  if w.hasEnded then [] else w.sending.toList ++ w.stage.run (w.inbox.records ++ input)

/-- Has the consumer handed what it was given to a sink that was in state `origin` at first, and
stopped only when no record could come any more? -/
def Consumer.IsFaithful (sink : Sink σ ε) (origin : σ) (ticker : Ticker) (c : Consumer σ ε) : Prop :=
  let handed := sink.after origin (ticker.arrivals c.consumed)
  match c.phase with
  | .consuming => ∃ met, sink.Meets origin ticker met c.consumed c.state c.ticker
  | .finishing => c.state = handed ∧ c.inbox.isFed = false
  | .stopping result | .ended result =>
    c.state = (sink.finish handed).1 ∧
      result = (sink.finish handed).2.map (fun _ => c.consumed.length) ∧ c.inbox.isFed = false

namespace Downstream

def counts : Downstream σ ε → List Record → List (String × Nat)
  | consumer _, _ => []
  | worker w rest, input =>
    (w.stage.filterText?.map fun text => (text, w.passed + (w.toPass input).length)).toList ++
      rest.counts (w.toPass input)

def IsAttentive (sink : Sink σ ε) (origin : σ) (ticker : Ticker) : Downstream σ ε → Prop
  | consumer c => c.IsFaithful sink origin ticker
  | worker w rest =>
    (w.hasEnded = true → w.inbox.isFed = false) ∧ rest.IsAttentive sink origin ticker

section Attention

variable {sink : Sink σ ε} {origin : σ} {ticker : Ticker} {downstream : Downstream σ ε}

theorem counts_put (record : Record) (downstream : Downstream σ ε) (input : List Record) :
    (downstream.put record).counts input = downstream.counts (record :: input) := by
  cases downstream with
  | consumer c => rfl
  | worker w rest => simp [put, mapInbox, counts, Worker.toPass]

theorem counts_close (downstream : Downstream σ ε) (input : List Record) :
    downstream.close.counts input = downstream.counts input := by
  cases downstream <;> rfl

theorem counts_ended (ended : downstream.workers.all (·.hasEnded) = true) (input : List Record) :
    downstream.counts input =
      downstream.workers.filterMap fun w => w.stage.filterText?.map fun text => (text, w.passed) := by
  induction downstream generalizing input with
  | consumer c => rfl
  | worker w rest ih =>
    rw [workers, List.all_cons, Bool.and_eq_true] at ended
    have nothing : w.toPass input = [] := by simp [Worker.toPass, ended.1]
    rw [counts, nothing, ih ended.2, workers, List.filterMap_cons]
    cases w.stage.filterText? <;> rfl

theorem IsAttentive.put (attentive : downstream.IsAttentive sink origin ticker) (record : Record) :
    (downstream.put record).IsAttentive sink origin ticker := by
  cases downstream <;> exact attentive

theorem IsAttentive.close (attentive : downstream.IsAttentive sink origin ticker) :
    downstream.close.IsAttentive sink origin ticker := by
  cases downstream with
  | consumer c =>
    simp only [Downstream.close, mapInbox, IsAttentive, Consumer.IsFaithful] at attentive ⊢
    cases phase : c.phase with
    | consuming =>
      simp only [phase] at attentive ⊢
      exact attentive
    | finishing | stopping | ended =>
      simp only [phase] at attentive ⊢
      simp [attentive]
  | worker w rest => exact ⟨fun _ => rfl, attentive.2⟩

theorem IsAttentive.isListening (attentive : downstream.IsAttentive sink origin ticker)
    (linked : downstream.IsLinked true) : downstream.isListening = true := by
  cases downstream with
  | consumer c =>
    have fed : c.inbox.isFed = true := linked
    rw [isListening_consumer]
    rw [IsAttentive, Consumer.IsFaithful] at attentive
    split at attentive <;> simp_all
  | worker w rest =>
    rw [isListening_worker, Bool.not_eq_true', Bool.eq_false_iff]
    intro ended
    have unfed := attentive.1 ended
    simp [linked.1] at unfed

theorem IsAttentive.last (attentive : downstream.IsAttentive sink origin ticker) :
    downstream.last.IsFaithful sink origin ticker := by
  induction downstream with
  | consumer c => exact attentive
  | worker w rest ih => exact ih attentive.2

theorem IsAttentive.atWork (attentive : downstream.IsAttentive sink origin ticker)
    (linked : downstream.IsLinked true) : downstream.last.hasEnded = false := by
  induction downstream with
  | consumer c =>
    have consuming := (isListening_consumer c).1 (attentive.isListening linked)
    simp [Downstream.last, Consumer.hasEnded, consuming]
  | worker w rest ih =>
    have atWork := attentive.isListening linked
    rw [isListening_worker] at atWork
    obtain ⟨-, linked⟩ := linked
    rw [atWork] at linked
    exact ih attentive.2 linked

end Attention

end Downstream

open Downstream

/-! ### One step -/

theorem Consumer.Step.isFaithful {sink : Sink σ ε} {origin : σ} {ticker : Ticker}
    {c after : Consumer σ ε} (step : c.Step sink after)
    (takesEvery : sink.TakesEvery origin ticker) (faithful : c.IsFaithful sink origin ticker) :
    after.IsFaithful sink origin ticker := by
  have consuming_lasts (consuming : c.phase = .consuming) (records : List Record) :
      sink.lasts c.state (c.ticker.arrivals records) = true := by
    simp only [IsFaithful, consuming] at faithful
    obtain ⟨met, meets⟩ := faithful
    exact meets.lasts takesEvery records
  cases step with
  | updates consuming wants ticks updates =>
    simp only [IsFaithful, consuming] at faithful ⊢
    obtain ⟨met, meets⟩ := faithful
    exact ⟨_, meets.tick ticks updates⟩
  | failsToUpdate consuming wants ticks fails =>
    have lasts := consuming_lasts consuming []
    rw [Ticker.arrivals_tick ticks, Sink.lasts_cons] at lasts
    obtain ⟨next, -, goesOn, -⟩ := lasts
    cases (Sink.meet_updateFails fails).symm.trans goesOn
  | takes consuming wants waits first takes =>
    simp only [IsFaithful, consuming] at faithful ⊢
    obtain ⟨met, meets⟩ := faithful
    exact ⟨_, meets.record waits takes⟩
  | @takesLast record _ _ consuming wants waits first takes
  | @fails record _ _ _ consuming wants waits first takes =>
    have lasts := consuming_lasts consuming [record]
    rw [Ticker.arrivals_record waits, Sink.lasts_cons] at lasts
    obtain ⟨next, -, goesOn, -⟩ := lasts
    cases takes.symm.trans goesOn
  | isDone consuming sated =>
    cases sated.symm.trans (Sink.wantsMore_of_lasts (consuming_lasts consuming []))
  | isStarved consuming waits empty unfed =>
    simp only [IsFaithful, consuming] at faithful ⊢
    obtain ⟨met, meets⟩ := faithful
    exact ⟨meets.met_eq waits ▸ meets.state, unfed⟩
  | finishes finishing =>
    simp only [IsFaithful, finishing] at faithful ⊢
    rw [faithful.1]
    exact ⟨rfl, rfl, faithful.2⟩
  | ends stopping =>
    simp only [IsFaithful, stopping] at faithful ⊢
    exact faithful

theorem Worker.Step.counts {capacity : Nat} {w after : Worker} {rest restAfter : Downstream σ ε}
    (step : w.Step capacity rest after restAfter)
    (heard : w.hasEnded = false → rest.isListening = true) {input : List Record}
    (closed : w.inbox.isFed = false → input = []) :
    (worker after restAfter).counts input = (worker w rest).counts input := by
  cases step with
  | @sends record atWork sending =>
    have first : w.toPass input =
        record :: toPass { w with sending := none, passed := w.passed + 1 } input := by
      simp [toPass, atWork, sending]
    simp only [Downstream.counts, first, counts_put, List.length_cons, Nat.add_assoc, Nat.add_comm 1]
  | isRefused atWork sending unheard => simp [heard atWork] at unheard
  | @receives record records atWork idle first =>
    have same : (w.receive record records).toPass input = w.toPass input := by
      simp [toPass, receive, atWork, idle, first, Stage.run_cons]
    rw [Downstream.counts, Downstream.counts, same, receive]
    simp only [Stage.filterText?_step]
  | isStarved atWork idle empty unfed =>
    have nothing : w.toPass input = [] := by simp [toPass, atWork, idle, empty, closed unfed]
    have still : toPass { w with hasEnded := true } input = [] := by simp [toPass]
    rw [Downstream.counts, Downstream.counts, nothing, still, counts_close]

theorem Worker.Step.isAttentive {sink : Sink σ ε} {origin : σ} {ticker : Ticker} {capacity : Nat}
    {w after : Worker} {rest restAfter : Downstream σ ε} (step : w.Step capacity rest after restAfter)
    (heard : w.hasEnded = false → rest.isListening = true)
    (attentive : (worker w rest).IsAttentive sink origin ticker) :
    (worker after restAfter).IsAttentive sink origin ticker := by
  obtain ⟨ended, attentive⟩ := attentive
  cases step with
  | sends => exact ⟨ended, attentive.put _⟩
  | isRefused atWork sending unheard => simp [heard atWork] at unheard
  | receives => exact ⟨ended, attentive⟩
  | isStarved atWork idle empty unfed => exact ⟨fun _ => unfed, attentive.close⟩

/-- As long as all that is sent is taken, no step changes what the workers will have passed. -/
theorem Downstream.Step.counts {sink : Sink σ ε} {origin : σ} {ticker : Ticker} {capacity : Nat}
    {before after : Downstream σ ε} (step : before.Step capacity sink after)
    (takesEvery : sink.TakesEvery origin ticker) {isFed : Bool} (linked : before.IsLinked isFed)
    (attentive : before.IsAttentive sink origin ticker) {input : List Record}
    (closed : isFed = false → input = []) :
    after.counts input = before.counts input ∧ after.IsAttentive sink origin ticker := by
  induction step generalizing isFed input with
  | consumer step => exact ⟨rfl, step.isFaithful takesEvery attentive⟩
  | @worker w after rest restAfter step =>
    have heard (atWork : w.hasEnded = false) : rest.isListening = true := by
      have linked := linked.2
      rw [atWork] at linked
      exact attentive.2.isListening linked
    exact ⟨step.counts heard fun unfed => closed (linked.1 ▸ unfed),
      step.isAttentive heard attentive⟩
  | @behind w rest restAfter step ih =>
    have closed : (!w.hasEnded) = false → w.toPass input = [] := by
      intro stopped
      have ended : w.hasEnded = true := by simpa using stopped
      simp [Worker.toPass, ended]
    obtain ⟨same, attentiveAfter⟩ := ih linked.2 attentive.2 closed
    refine ⟨?_, attentive.1, attentiveAfter⟩
    rw [Downstream.counts, Downstream.counts, same]

/-! ### Every run -/

variable {setup : Setup ι σ ε} {stages : List Stage} {origin : ι} {state : σ} {ticker : Ticker}

/-- Has nothing been refused so far, so that the counts can be told from the lines of the source? -/
structure Undisturbed (setup : Setup ι σ ε) (stages : List Stage) (origin : ι) (state : σ)
    (ticker : Ticker) (network : Network ι σ ε) : Prop where
  linked : network.downstream.IsLinked network.intake.isAtWork
  attentive : network.downstream.IsAttentive setup.sink state ticker
  exhausted : network.intake.phase = .ended → setup.next? network.intake.source = none
  counts : ∃ lines, ReadsTo setup.next? origin lines network.intake.source ∧
    network.intake.linesRead = lines.length ∧
    ∀ further after, ReadsTo setup.next? network.intake.source further after →
      network.downstream.counts (network.intake.toCome further) =
        (runStages stages ((lines ++ further).map fun line => { line })).1

theorem counts_ofStages (stages : List Stage) (origin : ι) (state : σ) (ticker : Ticker)
    (input : List Record) :
    (ofStages (ε := ε) stages origin state ticker).downstream.counts input =
      (runStages stages input).1 := by
  rw [ofStages]
  induction stages generalizing input with
  | nil => rfl
  | cons stage stages ih =>
    rw [runStages_cons, ← ih, List.foldr_cons, Downstream.counts, Nat.zero_add]
    rfl

theorem attentive_ofStages (sink : Sink σ ε) (stages : List Stage) (origin : ι) (state : σ)
    (ticker : Ticker) :
    (ofStages stages origin state ticker).downstream.IsAttentive sink state ticker := by
  rw [ofStages]
  induction stages with
  | nil => exact ⟨[], .nil⟩
  | cons stage stages ih => exact ⟨by rintro ⟨⟩, ih⟩

theorem undisturbed_ofStages :
    Undisturbed setup stages origin state ticker (ofStages stages origin state ticker) where
  linked := linked_ofStages ..
  attentive := attentive_ofStages ..
  exhausted := by rintro ⟨⟩
  counts := ⟨[], rfl, rfl, fun _ _ _ => counts_ofStages ..⟩

theorem Intake.Step.undisturbed {network after : Network ι σ ε}
    (step : network.intake.Step setup network.downstream after)
    (undisturbed : Undisturbed setup stages origin state ticker network) :
    Undisturbed setup stages origin state ticker after := by
  obtain ⟨linked, attentive, exhausted, lines, reads, read, counts⟩ := undisturbed
  cases step with
  | checks checking =>
    rw [Intake.isAtWork, checking] at linked
    simp only [Intake.toCome, checking] at counts
    exact ⟨linked, attentive, by rintro ⟨⟩, lines, reads, read, counts⟩
  | isTold checking told =>
    rw [Intake.isAtWork, checking] at linked
    simp [attentive.atWork linked] at told
  | @reads line source reading next =>
    rw [Intake.isAtWork, reading] at linked
    refine ⟨linked, attentive, by rintro ⟨⟩, lines ++ [line], reads.snoc next, ?_, ?_⟩
    · rw [List.length_append, ← read]
      rfl
    · intro further after readsOn
      rw [List.append_assoc, List.singleton_append, ← counts (line :: further) after]
      · simp [Intake.toCome, reading]
      · exact ⟨source, next, readsOn⟩
  | isStarved reading next =>
    refine ⟨linked.close, attentive.close, fun _ => next, lines, reads, read, ?_⟩
    intro further after readsOn
    have none_left : further = [] := ReadsTo.eq_nil readsOn next
    rw [← counts further after readsOn, none_left]
    simp only [Intake.toCome, reading]
    exact counts_close _ _
  | sends sending =>
    rw [Intake.isAtWork, sending] at linked
    refine ⟨linked.put _, attentive.put _, by rintro ⟨⟩, lines, reads, read, ?_⟩
    intro further after readsOn
    rw [← counts further after readsOn, counts_put]
    simp only [Intake.toCome, sending]
  | isRefused sending unheard =>
    rw [Intake.isAtWork, sending] at linked
    simp [attentive.isListening linked] at unheard

theorem Step.undisturbed {before after : Network ι σ ε} (step : before.Step setup after)
    (takesEvery : setup.sink.TakesEvery state ticker)
    (undisturbed : Undisturbed setup stages origin state ticker before) :
    Undisturbed setup stages origin state ticker after := by
  cases step with
  | intake step => exact step.undisturbed undisturbed
  | downstream step =>
    obtain ⟨linked, attentive, exhausted, lines, reads, read, counts⟩ := undisturbed
    have closed : ∀ further, before.intake.isAtWork = false →
        before.intake.toCome further = [] := by
      intro further ended
      have phase : before.intake.phase = .ended := by simpa [Intake.isAtWork] using ended
      simp [Intake.toCome, phase]
    refine ⟨(step.outlook linked (closed [])).2,
      (step.counts takesEvery linked attentive (closed [])).2, exhausted, lines, reads, read, ?_⟩
    intro further after readsOn
    rw [← counts further after readsOn]
    exact (step.counts takesEvery linked attentive (closed further)).1

theorem undisturbed_of_reaches (takesEvery : setup.sink.TakesEvery state ticker)
    {network : Network ι σ ε}
    (reaches : Reaches setup (ofStages stages origin state ticker) network) :
    Undisturbed setup stages origin state ticker network := by
  induction reaches with
  | refl => exact undisturbed_ofStages
  | step _ step ih => exact (step_of_mem step).undisturbed takesEvery ih

/-- What a network has come to when all its processes have ended and the sink took every record: the
source is read to its end, and `goal`, which is what the stages make of its lines, was handed on. -/
structure Completes (setup : Setup ι σ ε) (stages : List Stage) (origin : ι) (state : σ)
    (ticker : Ticker) (lines : List String) (goal : List Record) (network : Network ι σ ε) :
    Prop where
  reads : ReadsTo setup.next? origin lines network.intake.source
  exhausted : setup.next? network.intake.source = none
  linesRead : network.intake.linesRead = lines.length
  consumed : network.downstream.last.consumed = goal
  passed : network.passed = (runStages stages (lines.map fun line => { line })).1
  lastState : network.downstream.last.state =
    (setup.sink.finish (setup.sink.after state (ticker.arrivals goal))).1
  phase : network.downstream.last.phase = .ended
    ((setup.sink.finish (setup.sink.after state (ticker.arrivals goal))).2.map fun _ => goal.length)

theorem completes_of_reaches {lines : List String} (yields : Yields setup.next? origin lines)
    (takesEvery : setup.sink.TakesEvery state ticker) {network : Network ι σ ε}
    (reaches : Reaches setup (ofStages stages origin state ticker) network)
    (finished : network.isFinished = true) :
    Completes setup stages origin state ticker lines
      (results stages (lines.map fun line => { line })) network := by
  have follows := follows_of_reaches reaches
  obtain ⟨-, attentive, exhausted, front, reads, read, counts⟩ :=
    undisturbed_of_reaches takesEvery reaches
  simp only [isFinished, Bool.and_eq_true, beq_iff_eq] at finished
  obtain ⟨⟨ended, workers⟩, last⟩ := finished
  have consumed := (follows.consumed yields).2 last
  rw [takesEvery] at consumed
  -- nothing is left behind the lines that were read
  have same : lines = front := by
    obtain ⟨rest, rfl, yieldsOn⟩ := yields.behind reads
    obtain ⟨_, readsOn⟩ := yieldsOn.readsTo
    rw [ReadsTo.eq_nil readsOn (exhausted ended), List.append_nil]
  subst same
  have faithful := attentive.last
  rw [Consumer.IsFaithful, consumed] at faithful
  rw [Consumer.hasEnded] at last
  split at last
  · next result phase =>
    rw [phase] at faithful
    obtain ⟨stateEq, rfl, -⟩ := faithful
    refine ⟨reads, exhausted ended, read, consumed, ?_, stateEq, phase⟩
    have total := counts [] network.intake.source rfl
    rw [counts_ended workers, List.append_nil] at total
    exact total
  · cases last

end Network

end LogQuery.Pipeline

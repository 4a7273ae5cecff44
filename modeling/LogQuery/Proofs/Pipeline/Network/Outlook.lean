import LogQuery.Proofs.Pipeline.Network.Steps
import LogQuery.Proofs.Pipeline.Stages
import LogQuery.Proofs.Sink

/-! In whatever order the processes take their steps, the sink is handed the same records.

What it will have been handed in the end can be told from any state on the way: from the records
that wait in the queues, from those that are still to be read, and from what the stages make of
them. No step changes it.
-/

set_option autoImplicit false

namespace LogQuery.Pipeline.Network

variable {ι σ ε : Type}

/-- Does the source yield these lines and then stand at `after`? -/
def ReadsTo (next? : ι → Option (String × ι)) : ι → List String → ι → Prop
  | source, [], after => after = source
  | source, line :: lines, after =>
    ∃ behind, next? source = some (line, behind) ∧ ReadsTo next? behind lines after

def Yields (next? : ι → Option (String × ι)) : ι → List String → Prop
  | source, [] => next? source = none
  | source, line :: lines => ∃ after, next? source = some (line, after) ∧ Yields next? after lines

section Reading

variable {next? : ι → Option (String × ι)} {source middle after : ι}

theorem ReadsTo.snoc {lines : List String} (reads : ReadsTo next? source lines middle)
    {line : String} (next : next? middle = some (line, after)) :
    ReadsTo next? source (lines ++ [line]) after := by
  induction lines generalizing source with
  | nil => cases reads; exact ⟨after, next, rfl⟩
  | cons first lines ih =>
    obtain ⟨behind, step, reads⟩ := reads
    exact ⟨behind, step, ih reads⟩

theorem ReadsTo.eq_nil {lines : List String} (reads : ReadsTo next? source lines after)
    (empty : next? source = none) : lines = [] := by
  cases lines with
  | nil => rfl
  | cons line lines =>
    obtain ⟨behind, step, _⟩ := reads
    rw [empty] at step
    cases step

theorem Yields.readsTo {lines : List String} (yields : Yields next? source lines) :
    ∃ after, ReadsTo next? source lines after := by
  induction lines generalizing source with
  | nil => exact ⟨source, rfl⟩
  | cons line lines ih =>
    obtain ⟨behind, step, yields⟩ := yields
    obtain ⟨after, reads⟩ := ih yields
    exact ⟨after, behind, step, reads⟩

theorem Yields.behind {lines all : List String} (yields : Yields next? source all)
    (reads : ReadsTo next? source lines after) :
    ∃ rest, all = lines ++ rest ∧ Yields next? after rest := by
  induction lines generalizing source all with
  | nil => cases reads; exact ⟨all, rfl, yields⟩
  | cons line lines ih =>
    obtain ⟨behind, step, reads⟩ := reads
    cases all with
    | nil => rw [Yields, step] at yields; cases yields
    | cons first all =>
      obtain ⟨behind', step', yields⟩ := yields
      rw [step] at step'
      cases step'
      obtain ⟨rest, rfl, later⟩ := ih yields reads
      exact ⟨rest, rfl, later⟩

end Reading

namespace Downstream

variable {sink : Sink σ ε}

/-- What the sink will have been handed in the end, if `input` is still to come. -/
def outlook (sink : Sink σ ε) : Downstream σ ε → List Record → List Record
  | consumer c, input =>
    match c.phase with
    | .consuming => c.consumed ++ sink.taken c.state (c.ticker.arrivals (c.inbox.records ++ input))
    | _ => c.consumed
  | worker w rest, input =>
    if w.hasEnded then rest.outlook sink []
    else rest.outlook sink (w.sending.toList ++ w.stage.run (w.inbox.records ++ input))

def IsLinked (isFed : Bool) : Downstream σ ε → Prop
  | consumer c => c.inbox.isFed = isFed
  | worker w rest => w.inbox.isFed = isFed ∧ rest.IsLinked (!w.hasEnded)

theorem outlook_consuming {c : Consumer σ ε} (consuming : c.phase = .consuming)
    (input : List Record) :
    (consumer c).outlook sink input =
      c.consumed ++ sink.taken c.state (c.ticker.arrivals (c.inbox.records ++ input)) := by
  simp [outlook, consuming]

theorem outlook_stopped {c : Consumer σ ε} (stopped : c.phase ≠ .consuming)
    (input : List Record) : (consumer c).outlook sink input = c.consumed := by
  cases phase : c.phase with
  | consuming => exact absurd phase stopped
  | finishing => simp [outlook, phase]
  | stopping result => simp [outlook, phase]
  | ended result => simp [outlook, phase]

theorem outlook_working {w : Worker} (atWork : w.hasEnded = false) (rest : Downstream σ ε)
    (input : List Record) :
    (worker w rest).outlook sink input =
      rest.outlook sink (w.sending.toList ++ w.stage.run (w.inbox.records ++ input)) := by
  simp [outlook, atWork]

theorem outlook_put (record : Record) (downstream : Downstream σ ε) (input : List Record) :
    (downstream.put record).outlook sink input = downstream.outlook sink (record :: input) := by
  cases downstream with
  | consumer c => simp [put, mapInbox, outlook]
  | worker w rest => simp [put, mapInbox, outlook]

theorem outlook_close (downstream : Downstream σ ε) (input : List Record) :
    downstream.close.outlook sink input = downstream.outlook sink input := by
  cases downstream <;> rfl

/-- What is sent to a process that has ended is lost to nobody. -/
theorem outlook_unheard {downstream : Downstream σ ε} (unheard : downstream.isListening = false)
    (input other : List Record) :
    downstream.outlook sink input = downstream.outlook sink other := by
  cases downstream with
  | consumer c =>
    have stopped : c.phase ≠ .consuming := by
      intro consuming
      rw [(isListening_consumer c).2 consuming] at unheard
      cases unheard
    rw [outlook_stopped stopped, outlook_stopped stopped]
  | worker w rest =>
    have ended : w.hasEnded = true := by simpa using unheard
    simp [outlook, ended]

theorem outlook_ended {downstream : Downstream σ ε} (ended : downstream.last.hasEnded = true)
    (input : List Record) : downstream.outlook sink input = downstream.last.consumed := by
  induction downstream generalizing input with
  | consumer c =>
    apply outlook_stopped
    intro consuming
    simp [last, Consumer.hasEnded, consuming] at ended
  | worker w rest ih =>
    unfold outlook
    split
    · exact ih ended []
    · exact ih ended _

theorem consumed_outlook (downstream : Downstream σ ε) (input : List Record) :
    downstream.last.consumed <+: downstream.outlook sink input := by
  induction downstream generalizing input with
  | consumer c =>
    by_cases consuming : c.phase = .consuming
    · rw [outlook_consuming consuming]
      exact List.prefix_append _ _
    · rw [outlook_stopped consuming]
      exact List.prefix_refl _
  | worker w rest ih =>
    unfold outlook
    split
    · exact ih []
    · exact ih _

theorem IsLinked.put {isFed : Bool} {downstream : Downstream σ ε}
    (linked : downstream.IsLinked isFed) (record : Record) :
    (downstream.put record).IsLinked isFed := by
  cases downstream <;> exact linked

theorem IsLinked.close {isFed : Bool} {downstream : Downstream σ ε}
    (linked : downstream.IsLinked isFed) : downstream.close.IsLinked false := by
  cases downstream with
  | consumer c => rfl
  | worker w rest => exact ⟨rfl, linked.2⟩

end Downstream

open Downstream

/-! ### One step -/

theorem Consumer.Step.outlook {sink : Sink σ ε} {c after : Consumer σ ε} (step : c.Step sink after)
    {input : List Record} (closed : c.inbox.isFed = false → input = []) :
    (consumer after).outlook sink input = (consumer c).outlook sink input ∧
      after.inbox.isFed = c.inbox.isFed := by
  cases step with
  | updates consuming wants ticks updates =>
    refine ⟨(outlook_consuming ?stays input).trans ?_, rfl⟩
    case stays => exact consuming
    rw [outlook_consuming consuming, Ticker.arrivals_tick ticks,
      Sink.taken_more wants (Sink.meet_update updates)]
    rfl
  | failsToUpdate consuming wants ticks fails =>
    refine ⟨?_, rfl⟩
    rw [outlook_consuming consuming, Ticker.arrivals_tick ticks,
      Sink.taken_last wants (by simp [Sink.meet_updateFails fails])]
    exact (outlook_stopped (by simp) input).trans (List.append_nil _).symm
  | takes consuming wants waits first takes =>
    refine ⟨(outlook_consuming rfl input).trans ?_, rfl⟩
    rw [outlook_consuming consuming, first, List.cons_append, Ticker.arrivals_record waits,
      Sink.taken_more wants (Sink.meet_consume takes), ← List.append_assoc]
    rfl
  | takesLast consuming wants waits first takes | fails consuming wants waits first takes =>
    refine ⟨?_, rfl⟩
    rw [outlook_consuming consuming, first, List.cons_append, Ticker.arrivals_record waits,
      Sink.taken_last wants (by simp [Sink.meet_consume takes])]
    exact outlook_stopped (by simp) input
  | isDone consuming sated =>
    refine ⟨?_, rfl⟩
    rw [outlook_consuming consuming, Sink.taken_unwanted sated, List.append_nil]
    exact outlook_stopped (by simp) input
  | isStarved consuming waits empty unfed =>
    refine ⟨?_, rfl⟩
    rw [outlook_consuming consuming, empty, closed unfed, List.nil_append,
      Ticker.arrivals_nil waits, Sink.taken, List.append_nil]
    exact outlook_stopped (by simp) []
  | finishes finishing =>
    refine ⟨?_, rfl⟩
    rw [outlook_stopped (by simp), outlook_stopped (by simp [finishing])]
  | ends stopping =>
    refine ⟨?_, rfl⟩
    rw [outlook_stopped (by simp), outlook_stopped (by simp [stopping])]

theorem Worker.Step.outlook {sink : Sink σ ε} {capacity : Nat} {w after : Worker}
    {rest restAfter : Downstream σ ε} (step : w.Step capacity rest after restAfter)
    {isFed : Bool} (linked : (worker w rest).IsLinked isFed) {input : List Record}
    (closed : isFed = false → input = []) :
    (worker after restAfter).outlook sink input = (worker w rest).outlook sink input ∧
      (worker after restAfter).IsLinked isFed := by
  obtain ⟨fed, linked⟩ := linked
  cases step with
  | sends atWork sending =>
    refine ⟨(outlook_working ?stays _ input).trans ?_, fed, linked.put _⟩
    case stays => exact atWork
    rw [outlook_working atWork, outlook_put, sending]
    rfl
  | isRefused atWork sending unheard =>
    -- the record is lost, and so is all behind it, but the sink has stopped
    refine ⟨?_, fed, linked.close⟩
    rw [outlook_working atWork, outlook_unheard unheard _ []]
    exact outlook_close rest []
  | receives atWork idle first =>
    refine ⟨(outlook_working ?stays _ input).trans ?_, fed, linked⟩
    case stays => exact atWork
    rw [outlook_working atWork, idle, first, List.cons_append, Stage.run_cons]
    rfl
  | isStarved atWork idle empty unfed =>
    -- a closed queue means that nothing is to come
    refine ⟨?_, fed, linked.close⟩
    rw [outlook_working atWork, idle, empty, closed (fed ▸ unfed)]
    exact outlook_close rest []

theorem Downstream.Step.outlook {sink : Sink σ ε} {capacity : Nat} {before after : Downstream σ ε}
    (step : before.Step capacity sink after) {isFed : Bool} (linked : before.IsLinked isFed)
    {input : List Record} (closed : isFed = false → input = []) :
    after.outlook sink input = before.outlook sink input ∧ after.IsLinked isFed := by
  induction step generalizing isFed input with
  | consumer step =>
    obtain ⟨same, fed⟩ := step.outlook fun unfed => closed (linked ▸ unfed)
    exact ⟨same, fed.trans linked⟩
  | worker step => exact step.outlook linked closed
  | @behind w rest restAfter step ih =>
    obtain ⟨fed, linked⟩ := linked
    -- what comes to the rest depends on whether this worker has ended, which does not change
    cases ended : w.hasEnded with
    | true =>
      obtain ⟨same, linkedAfter⟩ := ih linked fun _ => rfl
      refine ⟨?_, fed, linkedAfter⟩
      simp only [Downstream.outlook, ended]
      exact same
    | false =>
      obtain ⟨same, linkedAfter⟩ := ih linked fun closed => by simp [ended] at closed
      refine ⟨?_, fed, linkedAfter⟩
      rw [outlook_working ended, outlook_working ended, same]

/-! ### Every run -/

def Intake.toCome (intake : Intake ι) (lines : List String) : List Record :=
  match intake.phase with
  | .checking | .reading => lines.map fun line => { line }
  | .sending record => record :: lines.map fun line => { line }
  | .ended => []

def Intake.isAtWork (intake : Intake ι) : Bool := intake.phase != .ended

variable {setup : Setup ι σ ε} {stages : List Stage} {origin : ι} {state : σ} {ticker : Ticker}

/-- Has the network kept to what `stages` make of the lines of the source, one after the other?
The source may go on without end: what it has yielded is looked at with any lines that it may yield
next. -/
structure Follows (setup : Setup ι σ ε) (stages : List Stage) (origin : ι) (state : σ)
    (ticker : Ticker) (network : Network ι σ ε) : Prop where
  linked : network.downstream.IsLinked network.intake.isAtWork
  outlook : ∃ lines, ReadsTo setup.next? origin lines network.intake.source ∧
    ∀ further after, ReadsTo setup.next? network.intake.source further after →
      network.downstream.outlook setup.sink (network.intake.toCome further) =
        setup.sink.taken state
          (ticker.arrivals (results stages ((lines ++ further).map fun line => { line })))

theorem outlook_ofStages (sink : Sink σ ε) (stages : List Stage) (origin : ι) (state : σ)
    (ticker : Ticker) (input : List Record) :
    (ofStages (ε := ε) stages origin state ticker).downstream.outlook sink input =
      sink.taken state (ticker.arrivals (results stages input)) := by
  rw [ofStages]
  induction stages generalizing input with
  | nil => rfl
  | cons stage stages ih =>
    rw [results_cons, ← ih]
    rfl

theorem linked_ofStages (stages : List Stage) (origin : ι) (state : σ) (ticker : Ticker) :
    (ofStages (ε := ε) stages origin state ticker).downstream.IsLinked true := by
  rw [ofStages]
  induction stages with
  | nil => rfl
  | cons stage stages ih => exact ⟨rfl, ih⟩

theorem follows_ofStages :
    Follows setup stages origin state ticker (ofStages stages origin state ticker) :=
  ⟨linked_ofStages .., [], rfl, fun _ _ _ => outlook_ofStages ..⟩

/-- Once nobody listens, intake may end without a change to what the sink will have been handed. -/
theorem Follows.finish {network : Network ι σ ε}
    (follows : Follows setup stages origin state ticker network)
    (unheard : ∀ input other, network.downstream.outlook setup.sink input =
      network.downstream.outlook setup.sink other) :
    Follows setup stages origin state ticker (network.intake.finish network.downstream) := by
  obtain ⟨linked, lines, reads, outlook⟩ := follows
  refine ⟨linked.close, lines, reads, fun further after readsOn => ?_⟩
  rw [← outlook further after readsOn]
  exact (outlook_close network.downstream []).trans (unheard _ _)

theorem Intake.Step.follows {network after : Network ι σ ε}
    (step : network.intake.Step setup network.downstream after)
    (follows : Follows setup stages origin state ticker network) :
    Follows setup stages origin state ticker after := by
  have ends := follows.finish
  obtain ⟨linked, lines, reads, outlook⟩ := follows
  cases step with
  | checks checking =>
    rw [Intake.isAtWork, checking] at linked
    simp only [Intake.toCome, checking] at outlook
    exact ⟨linked, lines, reads, outlook⟩
  | isTold checking told =>
    apply ends
    intro input other
    rw [outlook_ended told, outlook_ended told]
  | @reads line source reading next =>
    rw [Intake.isAtWork, reading] at linked
    refine ⟨linked, lines ++ [line], reads.snoc next, ?_⟩
    intro further after readsOn
    rw [List.append_assoc, List.singleton_append, ← outlook (line :: further) after]
    · simp [Intake.toCome, reading]
    · exact ⟨source, next, readsOn⟩
  | isStarved reading next =>
    refine ⟨linked.close, lines, reads, ?_⟩
    intro further after readsOn
    -- there is nothing behind the end of the source
    have none_left : further = [] := ReadsTo.eq_nil readsOn next
    rw [← outlook further after readsOn, none_left]
    simp only [Intake.toCome, reading]
    exact outlook_close _ _
  | sends sending =>
    rw [Intake.isAtWork, sending] at linked
    refine ⟨linked.put _, lines, reads, ?_⟩
    intro further after readsOn
    rw [← outlook further after readsOn, outlook_put]
    simp only [Intake.toCome, sending]
  | isRefused sending unheard => exact ends (outlook_unheard unheard)

theorem Step.follows {before after : Network ι σ ε} (step : before.Step setup after)
    (follows : Follows setup stages origin state ticker before) :
    Follows setup stages origin state ticker after := by
  cases step with
  | intake step => exact step.follows follows
  | downstream step =>
    obtain ⟨linked, lines, reads, outlook⟩ := follows
    have closed : ∀ further, before.intake.isAtWork = false →
        before.intake.toCome further = [] := by
      intro further ended
      have phase : before.intake.phase = .ended := by simpa [Intake.isAtWork] using ended
      simp [Intake.toCome, phase]
    refine ⟨(step.outlook linked (closed [])).2, lines, reads, ?_⟩
    intro further after readsOn
    rw [← outlook further after readsOn]
    exact (step.outlook linked (closed further)).1

theorem follows_of_reaches {network : Network ι σ ε}
    (reaches : Reaches setup (ofStages stages origin state ticker) network) :
    Follows setup stages origin state ticker network := by
  induction reaches with
  | refl => exact follows_ofStages
  | step _ step ih => exact (step_of_mem step).follows ih

/-- On the way the sink has been handed the first of the records that it is to be handed, and in the
end all of them. -/
theorem Follows.consumed {network : Network ι σ ε}
    (follows : Follows setup stages origin state ticker network) {lines : List String}
    (yields : Yields setup.next? origin lines) :
    let goal := setup.sink.taken state
      (ticker.arrivals (results stages (lines.map fun line => { line })))
    network.downstream.last.consumed <+: goal ∧
      (network.downstream.last.hasEnded = true → network.downstream.last.consumed = goal) := by
  obtain ⟨-, front, reads, outlook⟩ := follows
  obtain ⟨rest, rfl, yieldsOn⟩ := yields.behind reads
  obtain ⟨after, readsOn⟩ := yieldsOn.readsTo
  have same := outlook rest after readsOn
  rw [← same]
  exact ⟨consumed_outlook _ _, fun ended => (outlook_ended ended _).symm⟩

end LogQuery.Pipeline.Network

import LogQuery.Pipeline.Network

/-! What each process of a network may do next, said once for each kind of process. -/

set_option autoImplicit false

namespace LogQuery.Pipeline.Network

variable {ι σ ε : Type}

namespace Downstream

variable {record : Record} {downstream : Downstream σ ε}

@[simp] theorem isListening_consumer (c : Consumer σ ε) :
    (consumer c).isListening = true ↔ c.phase = .consuming := by
  cases phase : c.phase <;> simp [isListening, phase]

@[simp] theorem isListening_worker (w : Worker) (rest : Downstream σ ε) :
    (worker w rest).isListening = !w.hasEnded := rfl

theorem send_delivered {capacity : Nat} {after : Downstream σ ε}
    (sent : downstream.send capacity record = .delivered after) :
    downstream.isListening = true ∧ downstream.inbox.records.length < capacity ∧
      after = downstream.put record := by
  unfold send at sent
  split at sent
  · next listening =>
    split at sent
    · next room => exact ⟨listening, room, (Sent.delivered.inj sent).symm⟩
    · cases sent
  · cases sent

theorem send_blocked {capacity : Nat} (blocked : downstream.send capacity record = .blocked) :
    downstream.isListening = true ∧ capacity ≤ downstream.inbox.records.length := by
  unfold send at blocked
  split at blocked
  · next listening =>
    split at blocked
    · cases blocked
    · next full => exact ⟨listening, Nat.le_of_not_lt full⟩
  · cases blocked

theorem send_refused {capacity : Nat} (refused : downstream.send capacity record = .refused) :
    downstream.isListening = false := by
  unfold send at refused
  split at refused
  · split at refused <;> cases refused
  · next unheard => exact Bool.eq_false_iff.2 unheard

end Downstream

inductive Consumer.Step (sink : Sink σ ε) (c : Consumer σ ε) : Consumer σ ε → Prop where
  | updates {ticker : Ticker} {state : σ} :
    c.phase = .consuming → sink.wantsMore c.state = true → c.ticker.tick? = some ticker →
    sink.update c.state = (state, .ok ()) → Step sink c { c with state, ticker }
  | failsToUpdate {ticker : Ticker} {state : σ} {e : ε} :
    c.phase = .consuming → sink.wantsMore c.state = true → c.ticker.tick? = some ticker →
    sink.update c.state = (state, .error e) →
    Step sink c { c with state, ticker, phase := .stopping (.error e) }
  | takes {record : Record} {records : List Record} {state : σ} :
    c.phase = .consuming → sink.wantsMore c.state = true → c.ticker.tick? = none →
    c.inbox.records = record :: records → sink.consume c.state record = (state, .ok true) →
    Step sink c
      ⟨state, c.ticker.next, { c.inbox with records }, c.consumed ++ [record], .consuming⟩
  | takesLast {record : Record} {records : List Record} {state : σ} :
    c.phase = .consuming → sink.wantsMore c.state = true → c.ticker.tick? = none →
    c.inbox.records = record :: records → sink.consume c.state record = (state, .ok false) →
    Step sink c
      ⟨state, c.ticker.next, { c.inbox with records }, c.consumed ++ [record], .finishing⟩
  | fails {record : Record} {records : List Record} {state : σ} {e : ε} :
    c.phase = .consuming → sink.wantsMore c.state = true → c.ticker.tick? = none →
    c.inbox.records = record :: records → sink.consume c.state record = (state, .error e) →
    Step sink c
      ⟨state, c.ticker.next, { c.inbox with records }, c.consumed ++ [record],
        .stopping (.error e)⟩
  | isDone : c.phase = .consuming → sink.wantsMore c.state = false →
    Step sink c { c with phase := .finishing }
  | isStarved : c.phase = .consuming → c.ticker.tick? = none → c.inbox.records = [] →
    c.inbox.isFed = false → Step sink c { c with phase := .finishing }
  | finishes : c.phase = .finishing →
    Step sink c
      { c with
        state := (sink.finish c.state).1
        phase := .stopping ((sink.finish c.state).2.map fun _ => c.consumed.length) }
  | ends {result : Except ε Nat} : c.phase = .stopping result →
    Step sink c { c with phase := .ended result }

theorem Consumer.step_of_step? {sink : Sink σ ε} {c after : Consumer σ ε}
    (step : c.step? sink = some after) : c.Step sink after := by
  unfold Consumer.step? at step
  split at step
  · next consuming =>
    split at step
    · next wants =>
      split at step
      · next ticks =>
        split at step
        · next updates => cases step; exact .updates consuming wants ticks updates
        · next fails => cases step; exact .failsToUpdate consuming wants ticks fails
      · next waits first =>
        split at step
        · next takes => cases step; exact .takes consuming wants waits first takes
        · next takes => cases step; exact .takesLast consuming wants waits first takes
        · next takes => cases step; exact .fails consuming wants waits first takes
      · next waits empty =>
        split at step
        · cases step
        · next unfed =>
          cases step
          exact .isStarved consuming waits empty (Bool.eq_false_iff.2 unfed)
    · next sated => cases step; exact .isDone consuming (Bool.eq_false_iff.2 sated)
  · next finishing => cases step; exact .finishes finishing
  · next stopping => cases step; exact .ends stopping
  · cases step

inductive Worker.Step (capacity : Nat) (w : Worker) (rest : Downstream σ ε) :
    Worker → Downstream σ ε → Prop where
  | sends {record : Record} : w.hasEnded = false → w.sending = some record →
    rest.isListening = true → rest.inbox.records.length < capacity →
    Step capacity w rest { w with sending := none, passed := w.passed + 1 } (rest.put record)
  | isRefused {record : Record} : w.hasEnded = false → w.sending = some record →
    rest.isListening = false → Step capacity w rest { w with hasEnded := true } rest.close
  | receives {record : Record} {records : List Record} : w.hasEnded = false → w.sending = none →
    w.inbox.records = record :: records → Step capacity w rest (w.receive record records) rest
  | isStarved : w.hasEnded = false → w.sending = none → w.inbox.records = [] →
    w.inbox.isFed = false → Step capacity w rest { w with hasEnded := true } rest.close

theorem Worker.step_of_step? {capacity : Nat} {w after : Worker} {rest restAfter : Downstream σ ε}
    (step : w.step? capacity rest = some (after, restAfter)) :
    w.Step capacity rest after restAfter := by
  unfold Worker.step? at step
  split at step
  · cases step
  · next atWork =>
    rw [Bool.not_eq_true] at atWork
    split at step
    · next sending =>
      split at step
      · next sent =>
        obtain ⟨listening, room, rfl⟩ := Downstream.send_delivered sent
        cases step
        exact .sends atWork sending listening room
      · cases step
      · next refused =>
        cases step
        exact .isRefused atWork sending (Downstream.send_refused refused)
    · next idle =>
      split at step
      · next first => cases step; exact .receives atWork idle first
      · next empty =>
        split at step
        · cases step
        · next unfed => cases step; exact .isStarved atWork idle empty (Bool.eq_false_iff.2 unfed)

inductive Downstream.Step (capacity : Nat) (sink : Sink σ ε) :
    Downstream σ ε → Downstream σ ε → Prop where
  | consumer {c after : Consumer σ ε} : c.Step sink after →
    Step capacity sink (.consumer c) (.consumer after)
  | worker {w after : Worker} {rest restAfter : Downstream σ ε} :
    w.Step capacity rest after restAfter →
    Step capacity sink (.worker w rest) (.worker after restAfter)
  | behind {w : Worker} {rest restAfter : Downstream σ ε} : Step capacity sink rest restAfter →
    Step capacity sink (.worker w rest) (.worker w restAfter)

theorem Downstream.step_of_mem {capacity : Nat} {sink : Sink σ ε} {before after : Downstream σ ε}
    (step : after ∈ before.steps capacity sink) : Step capacity sink before after := by
  induction before generalizing after with
  | consumer c =>
    simp only [steps, List.mem_map, Option.mem_toList] at step
    obtain ⟨next, step, rfl⟩ := step
    exact .consumer (Consumer.step_of_step? step)
  | worker w rest ih =>
    simp only [steps, List.mem_append, List.mem_map, Option.mem_toList] at step
    rcases step with ⟨⟨next, restAfter⟩, step, rfl⟩ | ⟨restAfter, step, rfl⟩
    · exact .worker (Worker.step_of_step? step)
    · exact .behind (ih step)

inductive Intake.Step (setup : Setup ι σ ε) (intake : Intake ι) (downstream : Downstream σ ε) :
    Network ι σ ε → Prop where
  | checks : intake.phase = .checking → downstream.last.hasEnded = false →
    Step setup intake downstream ⟨{ intake with phase := .reading }, downstream⟩
  | isTold : intake.phase = .checking → downstream.last.hasEnded = true →
    Step setup intake downstream (intake.finish downstream)
  | reads {line : String} {source : ι} : intake.phase = .reading →
    setup.next? intake.source = some (line, source) →
    Step setup intake downstream
      ⟨⟨source, intake.linesRead + 1, .sending { line }⟩, downstream⟩
  | isStarved : intake.phase = .reading → setup.next? intake.source = none →
    Step setup intake downstream (intake.finish downstream)
  | sends {record : Record} : intake.phase = .sending record → downstream.isListening = true →
    downstream.inbox.records.length < setup.capacity →
    Step setup intake downstream ⟨{ intake with phase := .checking }, downstream.put record⟩
  | isRefused {record : Record} : intake.phase = .sending record →
    downstream.isListening = false → Step setup intake downstream (intake.finish downstream)

theorem Intake.step_of_step? {setup : Setup ι σ ε} {intake : Intake ι}
    {downstream : Downstream σ ε} {after : Network ι σ ε}
    (step : intake.step? setup downstream = some after) : intake.Step setup downstream after := by
  unfold Intake.step? at step
  split at step
  · next checking =>
    split at step
    · next told => cases step; exact .isTold checking told
    · next untold => cases step; exact .checks checking (Bool.eq_false_iff.2 untold)
  · next reading =>
    split at step
    · next line => cases step; exact .reads reading line
    · next empty => cases step; exact .isStarved reading empty
  · next sending =>
    split at step
    · next sent =>
      obtain ⟨listening, room, rfl⟩ := Downstream.send_delivered sent
      cases step
      exact .sends sending listening room
    · cases step
    · next refused => cases step; exact .isRefused sending (Downstream.send_refused refused)
  · cases step

inductive Step (setup : Setup ι σ ε) (network : Network ι σ ε) : Network ι σ ε → Prop where
  | intake {after : Network ι σ ε} :
    network.intake.Step setup network.downstream after → Step setup network after
  | downstream {after : Downstream σ ε} :
    network.downstream.Step setup.capacity setup.sink after →
    Step setup network ⟨network.intake, after⟩

theorem step_of_mem {setup : Setup ι σ ε} {before after : Network ι σ ε}
    (step : after ∈ before.steps setup) : before.Step setup after := by
  simp only [steps, List.mem_append, List.mem_map, Option.mem_toList] at step
  rcases step with step | ⟨downstream, step, rfl⟩
  · exact .intake (Intake.step_of_step? step)
  · exact .downstream (Downstream.step_of_mem step)

/-! ### Several steps -/

theorem Reaches.trans {setup : Setup ι σ ε} {start middle network : Network ι σ ε}
    (first : Reaches setup start middle) (second : Reaches setup middle network) :
    Reaches setup start network := by
  induction second with
  | refl => exact first
  | step _ step ih => exact .step ih step

/-- The network behind the steps of a schedule, which tells each time which of the processes that
can take a step is to take it. Where there is none of that number, the schedule is at its end. -/
def follow (setup : Setup ι σ ε) (network : Network ι σ ε) : (schedule : List Nat) → Network ι σ ε
  | [] => network
  | place :: schedule =>
    match (network.steps setup)[place]? with
    | some next => next.follow setup schedule
    | none => network

theorem reaches_follow (setup : Setup ι σ ε) (network : Network ι σ ε) (schedule : List Nat) :
    Reaches setup network (network.follow setup schedule) := by
  induction schedule generalizing network with
  | nil => exact .refl
  | cons place schedule ih =>
    rw [follow]
    split
    · next next found =>
      exact (Reaches.step .refl (List.mem_of_getElem? found)).trans (ih next)
    · exact .refl

end LogQuery.Pipeline.Network

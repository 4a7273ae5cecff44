import LogQuery.Pipeline.Calls

/-! The life of a pipeline goes forward only, whatever is called and however intake's steps come
between.

Of the calls that are not refused there is one story: start succeeds and then, once, a wait comes to
its end; or start fails. Where a session may stand follows from that story but for what intake has
done by then. To those who call, it looks as if each call took place in one step.
-/

set_option autoImplicit false

namespace LogQuery.Pipeline

theorem Phase.rank_le_advance (phase : Phase) :
    phase.rank ≤ (phase.advance .running .draining).2.rank := by
  cases phase <;> decide

theorem Phase.rank_le_done (phase : Phase) : phase.rank ≤ Phase.done.rank := by
  cases phase <;> decide

namespace Session

variable {ε : Type} {events later story answers : List (Event ε)} {event : Event ε}
variable {before after session : Session ε}

def Event.isProgress : Event ε → Bool
  | .accepted _ | .started | .failed _ | .finished _ => true
  | .refused .. | .silent => false

def Event.isAnswer : Event ε → Bool
  | .refused .. | .started | .failed _ | .finished _ => true
  | .accepted _ | .silent => false

/-! ### Where a session may stand -/

/-- The phase beside what intake does, from when intake is started until all stages have ended. -/
inductive Works : Phase → Intake → Prop where
  | reading : Works .running .reading
  | closing : Works .draining .closing
  | ended : Works .draining .ended
  | brokenOff : Works .running .ended

/-- Where a session may stand behind a story. -/
inductive Stands : (story : List (Event ε)) → Session ε → Prop where
  | built : Stands [] {}
  | startingStages : Stands [.accepted .start] ⟨⟨.built, false, false⟩, .startingStages, .absent⟩
  | startingIntake : Stands [.accepted .start] ⟨⟨.running, false, false⟩, .startingIntake, .absent⟩
  | givingUp {phase : Phase} {cause : ε} : phase ≠ .done →
    Stands [.accepted .start] ⟨⟨phase, false, false⟩, .givingUp cause, .absent⟩
  | gaveUp {cause : ε} :
    Stands [.accepted .start, .failed cause] ⟨⟨.done, false, false⟩, .idle, .absent⟩
  | noting {phase : Phase} {intake : Intake} : Works phase intake →
    Stands [.accepted .start] ⟨⟨phase, false, false⟩, .noting, intake⟩
  | started {phase : Phase} {intake : Intake} : Works phase intake →
    Stands [.accepted .start, .started] ⟨⟨phase, false, true⟩, .idle, intake⟩
  | joining {phase : Phase} {intake : Intake} : Works phase intake →
    Stands [.accepted .start, .started, .accepted .wait] ⟨⟨phase, false, false⟩, .joining, intake⟩
  | finishing {phase : Phase} {result : Except ε Summary} : phase ≠ .done →
    Stands [.accepted .start, .started, .accepted .wait]
      ⟨⟨phase, false, false⟩, .finishing result, .ended⟩
  | finished {result : Except ε Summary} :
    Stands [.accepted .start, .started, .accepted .wait, .finished result]
      ⟨⟨.done, false, false⟩, .idle, .ended⟩

theorem Works.inputEnds {phase : Phase} (works : Works phase .reading) :
    Works (phase.advance .running .draining).2 .closing := by
  cases works
  exact .closing

theorem Works.intakeEnds {phase : Phase} (works : Works phase .closing) : Works phase .ended := by
  cases works
  exact .ended

theorem Works.breaksOff {phase : Phase} (works : Works phase .reading) : Works phase .ended := by
  cases works
  exact .brokenOff

theorem Works.ne_done {phase : Phase} {intake : Intake} (works : Works phase intake) :
    phase ≠ .done := by
  cases works <;> decide

theorem Stands.step (stands : Stands story before) (step : Step before event after) :
    Stands (story ++ [event].filter Event.isProgress) after := by
  -- the place decides which steps there are; while intake works, its own come at any place
  cases stands with
  | built =>
    cases step with
    | refusesStart | refusesWait => exact .built
    | acceptsStart => exact .startingStages
    | acceptsWait awaited => cases awaited
  | startingStages =>
    cases step with
    | startsStages => exact .startingIntake
    | failsStages => exact .givingUp (by decide)
  | startingIntake =>
    cases step with
    | startsIntake => exact .noting .reading
    | failsIntake => exact .givingUp (by decide)
  | givingUp => cases step with | givesUp => exact .gaveUp
  | gaveUp =>
    cases step with
    | refusesStart | refusesWait => exact .gaveUp
    | acceptsStart built => cases built
    | acceptsWait awaited => cases awaited
  | noting works =>
    cases step with
    | notes => exact .started works
    | inputEnds => exact .noting works.inputEnds
    | intakeEnds => exact .noting works.intakeEnds
    | breaksOff => exact .noting works.breaksOff
  | started works =>
    cases step with
    | refusesStart | refusesWait => exact .started works
    | acceptsStart _ wired => cases wired
    | acceptsWait => exact .joining works
    | inputEnds => exact .started works.inputEnds
    | intakeEnds => exact .started works.intakeEnds
    | breaksOff => exact .started works.breaksOff
  | joining works =>
    cases step with
    | joins => exact .finishing works.ne_done
    | inputEnds => exact .joining works.inputEnds
    | intakeEnds => exact .joining works.intakeEnds
    | breaksOff => exact .joining works.breaksOff
  | finishing => cases step with | finishes => exact .finished
  | finished =>
    cases step with
    | refusesStart | refusesWait => exact .finished
    | acceptsStart built => cases built
    | acceptsWait awaited => cases awaited

theorem Stands.runs (stands : Stands story before) (runs : Runs before events after) :
    Stands (story ++ events.filter Event.isProgress) after := by
  -- on the steps from the last one back, as the story grows at its end
  induction runs with
  | nil => simpa using stands
  | snoc _ step ih =>
    rw [List.filter_append, ← List.append_assoc]
    exact ih.step step

theorem Runs.stands (runs : Runs {} events session) :
    Stands (events.filter Event.isProgress) session :=
  Stands.built.runs runs

/-! ### What does not go back -/

theorem Stands.rank_le (stands : Stands story before) (step : Step before event after) :
    before.life.phase.rank ≤ after.life.phase.rank := by
  cases step with
  | startsStages =>
    -- only here something is written over what is not looked at
    cases stands
    exact Nat.zero_le _
  | givesUp | finishes => exact Phase.rank_le_done _
  | inputEnds => exact Phase.rank_le_advance _
  | _ => exact Nat.le_refl _

theorem Stands.rank_le_runs (stands : Stands story before) (runs : Runs before events after) :
    before.life.phase.rank ≤ after.life.phase.rank := by
  induction runs with
  | nil => exact Nat.le_refl _
  | snoc runs step ih => exact Nat.le_trans ih ((stands.runs runs).rank_le step)

/-! ### What the story tells -/

theorem Stands.told (stands : Stands story session) :
    (∃ result, story <+: [.accepted .start, .started, .accepted .wait, .finished result]) ∨
      ∃ cause, story = [.accepted .start, .failed cause] := by
  cases stands with
  | gaveUp => exact .inr ⟨_, rfl⟩
  | finished => exact .inl ⟨_, List.prefix_rfl⟩
  | _ => exact .inl ⟨.ok {}, by simp⟩

theorem Stands.done_iff (stands : Stands story session) : session.life.phase = .done ↔
    (∃ result, .finished result ∈ story) ∨ ∃ cause, .failed cause ∈ story := by
  cases stands with
  | givingUp unfinished | finishing unfinished => simp [unfinished]
  | noting works | started works | joining works => simp [works.ne_done]
  | _ => simp

theorem Stands.eq_of_startable (stands : Stands story session)
    (startable : .accepted .start ∉ story) : session = {} := by
  cases stands with
  | built => rfl
  | _ => exact absurd List.mem_cons_self startable

theorem Stands.built_of_accepts (stands : Stands story before)
    (step : Step before (.accepted .start) after) : before = {} := by
  cases step with
  | acceptsStart built wired =>
    cases stands with
    | built => rfl
    | gaveUp | started | finished => cases wired

theorem Stands.awaited (stands : Stands story session) (started : .started ∈ story)
    (unwaited : .accepted .wait ∉ story) :
    session.caller = .idle ∧ session.life.isAwaited = true := by
  cases stands with
  | started => exact ⟨rfl, rfl⟩
  | _ => simp at started unwaited

/-! ### Whole calls -/

inductive Lives : (answers : List (Event ε)) → Life → Prop where
  | built : Lives [] {}
  | starts {answers : List (Event ε)} {life after : Life} : Lives answers life →
    life.start true = .ok after → Lives (answers ++ [.started]) after
  | fails {answers : List (Event ε)} {life after : Life} (cause : ε) : Lives answers life →
    life.start false = .ok after → Lives (answers ++ [.failed cause]) after
  | refusesStart {answers : List (Event ε)} {life : Life} {spawns : Bool} {error : PhaseError} :
    Lives answers life → life.start spawns = .error error →
    Lives (answers ++ [.refused .start error]) life
  | waits {answers : List (Event ε)} {life after : Life} (result : Except ε Summary) :
    Lives answers life → life.wait = .ok after → Lives (answers ++ [.finished result]) after
  | refusesWait {answers : List (Event ε)} {life : Life} {error : PhaseError} :
    Lives answers life → life.wait = .error error → Lives (answers ++ [.refused .wait error]) life
  | inputEnds {answers : List (Event ε)} {life : Life} :
    Lives answers life → Lives answers life.inputEnds

/-- The life that the answered calls lead to. A start that is under way has not taken place, nor has
what intake does meanwhile; of a wait that is under way only the answer is missing. -/
def Accounts (answers : List (Event ε)) (session : Session ε) : Prop :=
  match session.caller with
  | .idle => Lives answers session.life
  | .startingStages | .startingIntake | .noting | .givingUp _ => Lives answers {}
  | .joining | .finishing _ => Lives answers { session.life with isAwaited := true }

theorem Works.lives {phase : Phase} {intake : Intake} (works : Works phase intake)
    (lives : Lives answers {}) : Lives (answers ++ [.started]) ⟨phase, false, true⟩ := by
  have running : Lives (answers ++ [.started]) ⟨.running, false, true⟩ := lives.starts rfl
  cases works with
  | reading | brokenOff => exact running
  | closing | ended => exact running.inputEnds

theorem Accounts.inputEnds {life : Life} {caller : Caller ε} {intake next : Intake}
    (accounts : Accounts answers ⟨life, caller, intake⟩) :
    Accounts answers ⟨life.inputEnds, caller, next⟩ := by
  cases caller with
  | idle | joining | finishing => exact Lives.inputEnds accounts
  | startingStages | startingIntake | noting | givingUp => exact accounts

theorem Accounts.step (accounts : Accounts answers before) (stands : Stands story before)
    (step : Step before event after) :
    Accounts (answers ++ [event].filter Event.isAnswer) after := by
  cases step with
  | refusesStart refused => exact Lives.refusesStart accounts refused
  | refusesWait refused => exact Lives.refusesWait accounts refused
  | acceptsStart built wired =>
    cases stands.built_of_accepts (.acceptsStart built wired)
    simpa [Accounts, Event.isAnswer] using accounts
  | notes =>
    cases stands with
    | noting works => exact works.lives accounts
  | givesUp =>
    -- however far the start came, it left the same as one that failed at once
    cases stands with
    | givingUp => exact Lives.fails _ accounts rfl
  | @acceptsWait life _ awaited =>
    have same : { life with isAwaited := true } = life := by rw [← awaited]
    simpa [Accounts, Event.isAnswer, same] using accounts
  | finishes =>
    cases stands with
    | finishing => exact Lives.waits _ accounts rfl
  | inputEnds => simpa [Event.isAnswer] using accounts.inputEnds
  | startsStages | failsStages | startsIntake | failsIntake | joins | intakeEnds | breaksOff =>
    simpa [Accounts, Event.isAnswer] using accounts

theorem Runs.accounts (runs : Runs {} events session) :
    Accounts (events.filter Event.isAnswer) session := by
  induction runs with
  | nil => exact .built
  | snoc runs step ih =>
    rw [List.filter_append]
    exact ih.step runs.stands step

/-! ### The life of a pipeline -/

/-- Whatever is called, in whatever order, and wherever intake's steps come between: one start at
most is accepted, when nothing was started before; if it succeeds, one wait at most is accepted, and
brings a summary or a failure; the phase never goes back; a call that is refused changes nothing, so
that what was not started can still be started, and what was started and not waited for can still be
waited for; the pipeline is done if and only if a wait has come to its end or the start has failed;
and between two calls it stands where the same answers lead if each call takes one step. -/
theorem goes_forward (runs : Runs {} events session) :
    ((∃ result, events.filter Event.isProgress <+:
        [.accepted .start, .started, .accepted .wait, .finished result]) ∨
      ∃ cause, events.filter Event.isProgress = [.accepted .start, .failed cause]) ∧
    (∀ later after, Runs session later after →
      session.life.phase.rank ≤ after.life.phase.rank) ∧
    (∀ after, Step session (.accepted .start) after → session = {}) ∧
    (∀ call error after, Step session (.refused call error) after → after = session) ∧
    (.accepted .start ∉ events → session = {}) ∧
    (.started ∈ events → .accepted .wait ∉ events →
      session.caller = .idle ∧ session.life.isAwaited = true) ∧
    (session.life.phase = .done ↔
      (∃ result, .finished result ∈ events) ∨ ∃ cause, .failed cause ∈ events) ∧
    (session.caller = .idle → Lives (events.filter Event.isAnswer) session.life) := by
  have stands := runs.stands
  have told (event : Event ε) (progress : event.isProgress = true) :
      event ∈ events.filter Event.isProgress ↔ event ∈ events := by
    simp [progress]
  refine ⟨stands.told, fun _ _ => stands.rank_le_runs, fun _ => stands.built_of_accepts, ?_, ?_, ?_,
    ?_, ?_⟩
  · intro call error after step
    cases step <;> rfl
  · intro unstarted
    exact stands.eq_of_startable (by rwa [told _ rfl])
  · intro started unwaited
    exact stands.awaited ((told _ rfl).2 started) (by rwa [told _ rfl])
  · rw [stands.done_iff]
    exact or_congr (exists_congr fun result => told (.finished result) rfl)
      (exists_congr fun cause => told (.failed cause) rfl)
  · intro idle
    have accounts := runs.accounts
    rwa [Accounts, idle] at accounts

def earlyEnd : List (Event String) :=
  [.refused .wait ⟨.running, .built⟩, .accepted .start, .silent, .silent, .silent, .started, .silent,
    .accepted .wait, .silent, .finished (.error "no space left"), .refused .start ⟨.built, .done⟩]

theorem earlyEnd_stays_done : ∃ session, Runs {} earlyEnd session ∧ session.life.phase = .done ∧
    (∀ later after, Runs session later after → Phase.done.rank ≤ after.life.phase.rank) ∧
    Lives (earlyEnd.filter Event.isAnswer) session.life := by
  have early : Runs ({} : Session String) [.refused .wait ⟨.running, .built⟩] {} :=
    Runs.nil.snoc (.refusesWait rfl)
  have started := ((((early.snoc (.acceptsStart rfl rfl)).snoc .startsStages).snoc
    .startsIntake).snoc .inputEnds).snoc .notes
  have waited := (((started.snoc .intakeEnds).snoc (.acceptsWait rfl)).snoc
    (.joins (.error "no space left"))).snoc .finishes
  have runs := waited.snoc (.refusesStart (show Life.start _ true = _ from rfl))
  obtain ⟨_, forward, _, _, _, _, done, lives⟩ := goes_forward runs
  have isDone := done.2 (.inl ⟨.error "no space left", by simp⟩)
  exact ⟨_, runs, isDone, isDone ▸ forward, lives rfl⟩

end Session

end LogQuery.Pipeline

import LogQuery.Pipeline.Phase

/-! The calls that start a pipeline and wait for it, in the steps that others can see.

Intake runs beside the caller, and each of its steps may come between any two steps of a call. Both
of them write the phase. What is to be started and what is to be waited for belongs to the caller
alone. -/

set_option autoImplicit false

namespace LogQuery.Pipeline

inductive Call where
  | start
  | wait
  deriving DecidableEq, Repr

namespace Session

inductive Caller (ε : Type) where
  | idle
  | startingStages
  | startingIntake
  /-- all of them run, but it is not noted that they can be waited for -/
  | noting
  | givingUp (cause : ε)
  | joining
  | finishing (result : Except ε Summary)

inductive Intake where
  | absent
  | reading
  | closing
  | ended

inductive Event (ε : Type) where
  | accepted (call : Call)
  | refused (call : Call) (error : PhaseError)
  | started
  | failed (cause : ε)
  | finished (result : Except ε Summary)
  | silent

end Session

structure Session (ε : Type) where
  life : Life := {}
  caller : Session.Caller ε := .idle
  intake : Session.Intake := .absent

namespace Session

variable {ε : Type}

/-- One step of the caller or of intake. Stages are started from the sink back to intake. -/
inductive Step : Session ε → Event ε → Session ε → Prop where
  | refusesStart {life : Life} {intake : Intake} {error : PhaseError} {spawns : Bool} :
    life.start spawns = .error error →
    Step ⟨life, .idle, intake⟩ (.refused .start error) ⟨life, .idle, intake⟩
  | acceptsStart {life : Life} {intake : Intake} : life.phase = .built → life.isWired = true →
    Step ⟨life, .idle, intake⟩ (.accepted .start)
      ⟨{ life with isWired := false }, .startingStages, intake⟩
  | startsStages {life : Life} {intake : Intake} :
    Step ⟨life, .startingStages, intake⟩ .silent
      ⟨{ life with phase := .running }, .startingIntake, intake⟩
  | failsStages {life : Life} {intake : Intake} (cause : ε) :
    Step ⟨life, .startingStages, intake⟩ .silent ⟨life, .givingUp cause, intake⟩
  | startsIntake {life : Life} :
    Step ⟨life, .startingIntake, .absent⟩ .silent ⟨life, .noting, .reading⟩
  | failsIntake {life : Life} {intake : Intake} (cause : ε) :
    Step ⟨life, .startingIntake, intake⟩ .silent ⟨life, .givingUp cause, intake⟩
  | notes {life : Life} {intake : Intake} :
    Step ⟨life, .noting, intake⟩ .started ⟨{ life with isAwaited := true }, .idle, intake⟩
  | givesUp {life : Life} {intake : Intake} {cause : ε} :
    Step ⟨life, .givingUp cause, intake⟩ (.failed cause)
      ⟨{ life with phase := .done }, .idle, intake⟩
  | refusesWait {life : Life} {intake : Intake} {error : PhaseError} :
    life.wait = .error error →
    Step ⟨life, .idle, intake⟩ (.refused .wait error) ⟨life, .idle, intake⟩
  | acceptsWait {life : Life} {intake : Intake} : life.isAwaited = true →
    Step ⟨life, .idle, intake⟩ (.accepted .wait)
      ⟨{ life with isAwaited := false }, .joining, intake⟩
  | joins {life : Life} (result : Except ε Summary) :
    Step ⟨life, .joining, .ended⟩ .silent ⟨life, .finishing result, .ended⟩
  | finishes {life : Life} {intake : Intake} {result : Except ε Summary} :
    Step ⟨life, .finishing result, intake⟩ (.finished result)
      ⟨{ life with phase := .done }, .idle, intake⟩
  | inputEnds {life : Life} {caller : Caller ε} :
    Step ⟨life, caller, .reading⟩ .silent ⟨life.inputEnds, caller, .closing⟩
  | intakeEnds {life : Life} {caller : Caller ε} :
    Step ⟨life, caller, .closing⟩ .silent ⟨life, caller, .ended⟩
  | breaksOff {life : Life} {caller : Caller ε} :
    Step ⟨life, caller, .reading⟩ .silent ⟨life, caller, .ended⟩

inductive Runs (start : Session ε) : List (Event ε) → Session ε → Prop where
  | nil : Runs start [] start
  | snoc {events : List (Event ε)} {event : Event ε} {before after : Session ε} :
    Runs start events before → Step before event after → Runs start (events ++ [event]) after

end Session

end LogQuery.Pipeline

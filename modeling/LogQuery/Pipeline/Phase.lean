/-! The life of a pipeline: it is built, started once and waited for once, which gives a summary of
what was counted. -/

set_option autoImplicit false

namespace LogQuery.Pipeline

inductive Phase where
  | built
  | running
  | draining
  | done
  deriving DecidableEq, Repr

namespace Phase

def name : Phase → String
  | built => "Built"
  | running => "Running"
  | draining => "Draining"
  | done => "Done"

def rank : Phase → Nat
  | built => 0
  | running => 1
  | draining => 2
  | done => 3

def advance (phase source target : Phase) : Bool × Phase :=
  if phase = source then (true, target) else (false, phase)

end Phase

structure PhaseError where
  expected : Phase
  found : Phase
  deriving DecidableEq, Repr

def PhaseError.message (e : PhaseError) : String :=
  s!"pipeline is {e.found.name}, expected {e.expected.name}"

structure Life where
  phase : Phase := .built
  isWired : Bool := true
  isAwaited : Bool := false
  deriving DecidableEq, Repr

namespace Life

/-- Starts the stages; `spawns` tells whether that succeeds. -/
def start (life : Life) (spawns : Bool) : Except PhaseError Life :=
  if life.phase = .built ∧ life.isWired then
    if spawns then .ok { phase := .running, isWired := false, isAwaited := true }
    else .ok { life with phase := .done, isWired := false }
  else .error ⟨.built, life.phase⟩

def inputEnds (life : Life) : Life := { life with phase := (life.phase.advance .running .draining).2 }

def wait (life : Life) : Except PhaseError Life :=
  if life.isAwaited then .ok { life with phase := .done, isAwaited := false }
  else .error ⟨.running, life.phase⟩

end Life

structure Summary where
  bytesRead : Nat := 0
  bytesSkipped : Nat := 0
  linesRead : Nat := 0
  /-- each filter's text and the number of records that it passed, in order -/
  passed : List (String × Nat) := []
  delivered : Nat := 0
  streamError : Option String := none
  deriving DecidableEq, Repr

namespace Summary

def lines (summary : Summary) : List String :=
  [s!"bytes read      : {summary.bytesRead}",
   s!"bytes skipped   : {summary.bytesSkipped}",
   s!"lines read      : {summary.linesRead}"] ++
  (summary.passed.map fun (filter, count) => s!"lines passed    : {count} ({filter})") ++
  [s!"lines delivered : {summary.delivered}"] ++
  (match summary.streamError with
    | some message => [s!"stream error    : {message}"]
    | none => [])

def text (summary : Summary) : String := "\n".intercalate summary.lines

end Summary

end LogQuery.Pipeline

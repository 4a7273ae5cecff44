import LogQuery.Record

/-! Sinks: where records go in the end.

A sink takes records one by one until it wants no more, and may be asked in between to bring what it
shows up to date.
-/

set_option autoImplicit false

namespace LogQuery

structure Sink (σ ε : Type) where
  wantsMore : σ → Bool
  /-- takes a record; are there more to be offered? -/
  consume : σ → Record → σ × Except ε Bool
  update : σ → σ × Except ε Unit
  finish : σ → σ × Except ε Unit

inductive Arrival where
  | record (record : Record)
  | tick
  deriving DecidableEq, Repr

def Arrival.record? : Arrival → Option Record
  | .record given => some given
  | .tick => none

/-- How often it is time to update ahead of each of the records that are still to come. -/
def Ticker := Nat → Nat

namespace Ticker

def never : Ticker := fun _ => 0

def tick? (ticker : Ticker) : Option Ticker :=
  match ticker 0 with
  | 0 => none
  | ticks + 1 => some fun
    | 0 => ticks
    | place + 1 => ticker (place + 1)

def next (ticker : Ticker) : Ticker := fun place => ticker (place + 1)

/-- The records with the ticks ahead of each of them and behind the last. -/
def arrivals (ticker : Ticker) : List Record → List Arrival
  | [] => List.replicate (ticker 0) .tick
  | record :: records =>
    List.replicate (ticker 0) .tick ++ .record record :: ticker.next.arrivals records

end Ticker

namespace Sink

variable {σ ε : Type}

def close (sink : Sink σ ε) (state : σ) (taken : Nat) : σ × Except ε Nat :=
  let (state, result) := sink.finish state
  (state, result.map fun _ => taken)

/-- Offers the arrivals in turn. The answer is the number of records consumed, the one at which the
sink stopped included; a failure ends the run at once, without finishing. -/
def runFrom (sink : Sink σ ε) (state : σ) (taken : Nat) : List Arrival → σ × Except ε Nat
  | [] => sink.close state taken
  | arrival :: rest =>
    if sink.wantsMore state then
      match arrival with
      | .record record =>
        match sink.consume state record with
        | (state, .ok true) => sink.runFrom state (taken + 1) rest
        | (state, .ok false) => sink.close state (taken + 1)
        | (state, .error e) => (state, .error e)
      | .tick =>
        match sink.update state with
        | (state, .ok ()) => sink.runFrom state taken rest
        | (state, .error e) => (state, .error e)
    else sink.close state taken

def run (sink : Sink σ ε) (state : σ) (arrivals : List Arrival) : σ × Except ε Nat :=
  sink.runFrom state 0 arrivals

end Sink

end LogQuery

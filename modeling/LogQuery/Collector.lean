import LogQuery.ByteStream.Basic
import LogQuery.Sink

/-! A sink that keeps the records that it is given, with a limit or a failure at choice. -/

set_option autoImplicit false

namespace LogQuery

structure Collector where
  stopAfter : Option Nat := none
  /-- the record at which consuming fails, counted from 1 -/
  failAt : Option Nat := none
  failsToFinish : Bool := false
  offered : Nat := 0
  kept : Array Record := #[]

namespace Collector

def wantsMore (collector : Collector) : Bool :=
  match collector.stopAfter with
  | some limit => collector.kept.size < limit
  | none => true

def consume (collector : Collector) (record : Record) : Collector × Except Failure Bool :=
  let offered := collector.offered + 1
  if collector.failAt == some offered then
    ({ collector with offered }, .error ⟨.other, "sink failed"⟩)
  else
    let collector := { collector with offered, kept := collector.kept.push record }
    (collector, .ok collector.wantsMore)

def finish (collector : Collector) : Collector × Except Failure Unit :=
  (collector, if collector.failsToFinish then .error ⟨.other, "finish failed"⟩ else .ok ())

def sink : Sink Collector Failure where
  wantsMore := wantsMore
  consume := consume
  update := fun collector => (collector, .ok ())
  finish := finish

end Collector

end LogQuery

import LogQuery.Pipeline.Stage
import LogQuery.Sink

/-! A pipeline as processes that run side by side, joined by queues of bounded length.

Intake reads lines one by one, each stage makes records of records, and a consumer hands them to a
sink, which it lets update whenever its ticker tells it to. A queue closes behind a sender that has
ended, and takes nothing more once its receiver has. Each process can take one step at most; which
of them goes first is open. -/

set_option autoImplicit false

namespace LogQuery.Pipeline

namespace Network

structure Inbox where
  records : List Record := []
  isFed : Bool := true
  deriving DecidableEq, Repr

structure Worker where
  stage : Stage
  inbox : Inbox := {}
  sending : Option Record := none
  passed : Nat := 0
  hasEnded : Bool := false

inductive Consumer.Phase (ε : Type) where
  | consuming
  /-- no more is received, but the sink has not finished -/
  | finishing
  /-- the sink is done with, but intake is not told yet -/
  | stopping (result : Except ε Nat)
  | ended (result : Except ε Nat)

structure Consumer (σ ε : Type) where
  state : σ
  ticker : Ticker := .never
  inbox : Inbox := {}
  consumed : List Record := []
  phase : Consumer.Phase ε := .consuming

inductive Intake.Phase where
  | checking
  | reading
  | sending (record : Record)
  | ended
  deriving DecidableEq, Repr

structure Intake (ι : Type) where
  source : ι
  linesRead : Nat := 0
  phase : Intake.Phase := .checking

inductive Downstream (σ ε : Type) where
  | consumer (consumer : Consumer σ ε)
  | worker (worker : Worker) (rest : Downstream σ ε)

end Network

structure Network (ι σ ε : Type) where
  intake : Network.Intake ι
  downstream : Network.Downstream σ ε

namespace Network

structure Setup (ι σ ε : Type) where
  capacity : Nat
  capacity_pos : 0 < capacity
  /-- the next line of the source, which may never end -/
  next? : ι → Option (String × ι)
  sink : Sink σ ε

variable {ι σ ε : Type}

namespace Downstream

def inbox : Downstream σ ε → Inbox
  | consumer c => c.inbox
  | worker w _ => w.inbox

def isListening : Downstream σ ε → Bool
  | consumer c => (c.phase matches .consuming)
  | worker w _ => !w.hasEnded

def mapInbox (change : Inbox → Inbox) : Downstream σ ε → Downstream σ ε
  | consumer c => consumer { c with inbox := change c.inbox }
  | worker w rest => worker { w with inbox := change w.inbox } rest

def put (record : Record) (downstream : Downstream σ ε) : Downstream σ ε :=
  downstream.mapInbox fun inbox => { inbox with records := inbox.records ++ [record] }

def close (downstream : Downstream σ ε) : Downstream σ ε :=
  downstream.mapInbox fun inbox => { inbox with isFed := false }

inductive Sent (σ ε : Type) where
  | delivered (downstream : Downstream σ ε)
  | blocked
  | refused

def send (capacity : Nat) (record : Record) (downstream : Downstream σ ε) : Sent σ ε :=
  if downstream.isListening then
    if downstream.inbox.records.length < capacity then .delivered (downstream.put record)
    else .blocked
  else .refused

def last : Downstream σ ε → Consumer σ ε
  | consumer c => c
  | worker _ rest => rest.last

def workers : Downstream σ ε → List Worker
  | consumer _ => []
  | worker w rest => w :: rest.workers

end Downstream

namespace Consumer

def step? (sink : Sink σ ε) (c : Consumer σ ε) : Option (Consumer σ ε) :=
  match c.phase with
  | .consuming =>
    if sink.wantsMore c.state then
      match c.ticker.tick?, c.inbox.records with
      | some ticker, _ =>
        match sink.update c.state with
        | (state, .ok ()) => some { c with state, ticker }
        | (state, .error e) => some { c with state, ticker, phase := .stopping (.error e) }
      | none, record :: records =>
        let ticker := c.ticker.next
        let inbox := { c.inbox with records }
        let consumed := c.consumed ++ [record]
        match sink.consume c.state record with
        | (state, .ok true) => some { state, ticker, inbox, consumed }
        | (state, .ok false) => some { state, ticker, inbox, consumed, phase := .finishing }
        | (state, .error e) => some { state, ticker, inbox, consumed, phase := .stopping (.error e) }
      | none, [] => if c.inbox.isFed then none else some { c with phase := .finishing }
    else some { c with phase := .finishing }
  | .finishing =>
    let (state, result) := sink.finish c.state
    some { c with state, phase := .stopping (result.map fun _ => c.consumed.length) }
  | .stopping result => some { c with phase := .ended result }
  | .ended _ => none

def hasEnded (c : Consumer σ ε) : Bool := c.phase matches .ended _

end Consumer

namespace Worker

def receive (w : Worker) (record : Record) (records : List Record) : Worker :=
  let (stage, sending) := w.stage.step record
  { w with stage, sending, inbox := { w.inbox with records } }

/-- The worker's next step, if it does not wait. What comes behind it takes part in it. -/
def step? (capacity : Nat) (w : Worker) (rest : Downstream σ ε) :
    Option (Worker × Downstream σ ε) :=
  if w.hasEnded then none
  else match w.sending with
    | some record =>
      match rest.send capacity record with
      | .delivered rest => some ({ w with sending := none, passed := w.passed + 1 }, rest)
      | .blocked => none
      | .refused => some ({ w with hasEnded := true }, rest.close)
    | none =>
      match w.inbox.records with
      | record :: records => some (w.receive record records, rest)
      | [] => if w.inbox.isFed then none else some ({ w with hasEnded := true }, rest.close)

end Worker

/-- All that may come next when one process takes its step. -/
def Downstream.steps (capacity : Nat) (sink : Sink σ ε) :
    Downstream σ ε → List (Downstream σ ε)
  | consumer c => (c.step? sink).toList.map consumer
  | worker w rest =>
    ((w.step? capacity rest).toList.map fun (w, rest) => worker w rest) ++
      (rest.steps capacity sink).map (worker w)

namespace Intake

def finish (intake : Intake ι) (downstream : Downstream σ ε) : Network ι σ ε :=
  ⟨{ intake with phase := .ended }, downstream.close⟩

def step? (setup : Setup ι σ ε) (intake : Intake ι) (downstream : Downstream σ ε) :
    Option (Network ι σ ε) :=
  match intake.phase with
  | .checking =>
    if downstream.last.hasEnded then some (intake.finish downstream)
    else some ⟨{ intake with phase := .reading }, downstream⟩
  | .reading =>
    match setup.next? intake.source with
    | some (line, source) =>
      some ⟨⟨source, intake.linesRead + 1, .sending { line }⟩, downstream⟩
    | none => some (intake.finish downstream)
  | .sending record =>
    match downstream.send setup.capacity record with
    | .delivered downstream => some ⟨{ intake with phase := .checking }, downstream⟩
    | .blocked => none
    | .refused => some (intake.finish downstream)
  | .ended => none

end Intake

def ofStages (stages : List Stage) (source : ι) (state : σ) (ticker : Ticker) :
    Network ι σ ε where
  intake := { source }
  downstream :=
    stages.foldr (fun stage rest => .worker { stage } rest) (.consumer { state, ticker })

def steps (setup : Setup ι σ ε) (network : Network ι σ ε) : List (Network ι σ ε) :=
  (network.intake.step? setup network.downstream).toList ++
    (network.downstream.steps setup.capacity setup.sink).map (⟨network.intake, ·⟩)

/-- What a network may come to, by steps in any order. -/
inductive Reaches (setup : Setup ι σ ε) (start : Network ι σ ε) : Network ι σ ε → Prop where
  | refl : Reaches setup start start
  | step {before after : Network ι σ ε} :
    Reaches setup start before → after ∈ before.steps setup → Reaches setup start after

def isFinished (network : Network ι σ ε) : Bool :=
  network.intake.phase == .ended && network.downstream.workers.all (·.hasEnded) &&
    network.downstream.last.hasEnded

def passed (network : Network ι σ ε) : List (String × Nat) :=
  network.downstream.workers.filterMap fun w =>
    w.stage.filterText?.map fun text => (text, w.passed)

end Network

end LogQuery.Pipeline

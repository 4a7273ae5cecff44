import LogQuery.Proofs.Pipeline.Network.Outlook

/-! When the source has an end, so has every run.

Each step but an update makes a weight smaller that counts the steps which what is still to come,
waits in a queue or is about to be sent can give rise to. An update leaves the weight as it is, but
there are only so many ticks ahead of the next record.
-/

set_option autoImplicit false

namespace LogQuery.Pipeline.Network

variable {ι σ ε : Type}

namespace Downstream

/-- The steps that a record in the first queue gives rise to at most. -/
def recordCost : Downstream σ ε → Nat
  | consumer _ => 1
  | worker _ rest => rest.recordCost + 2

def weight : Downstream σ ε → Nat
  | consumer c =>
    c.inbox.records.length + match c.phase with
      | .consuming => 3
      | .finishing => 2
      | .stopping _ => 1
      | .ended _ => 0
  | worker w rest =>
    w.inbox.records.length * (rest.recordCost + 2) +
      w.sending.toList.length * (rest.recordCost + 1) + (if w.hasEnded then 0 else 1) + rest.weight

theorem recordCost_put (record : Record) (downstream : Downstream σ ε) :
    (downstream.put record).recordCost = downstream.recordCost := by
  cases downstream <;> rfl

theorem recordCost_close (downstream : Downstream σ ε) :
    downstream.close.recordCost = downstream.recordCost := by
  cases downstream <;> rfl

theorem weight_put (record : Record) (downstream : Downstream σ ε) :
    (downstream.put record).weight = downstream.weight + downstream.recordCost := by
  cases downstream with
  | consumer c => simp [put, mapInbox, weight, recordCost]; omega
  | worker w rest => simp [put, mapInbox, weight, recordCost, Nat.add_mul]; omega

theorem weight_close (downstream : Downstream σ ε) :
    downstream.close.weight = downstream.weight := by
  cases downstream <;> rfl

def IsNearer (after before : Downstream σ ε) : Prop :=
  after.weight < before.weight ∨
    after.weight = before.weight ∧ after.last.ticker 0 < before.last.ticker 0

end Downstream

open Downstream

theorem Consumer.Step.isNearer {sink : Sink σ ε} {c after : Consumer σ ε}
    (step : c.Step sink after) : IsNearer (consumer after) (consumer c) := by
  cases step with
  | updates consuming wants ticks => exact .inr ⟨rfl, Ticker.fewer_ahead ticks⟩
  | failsToUpdate phase | isDone phase | isStarved phase | finishes phase | ends phase =>
    left
    simp only [Downstream.weight, phase]
    omega
  | takes consuming wants waits first | takesLast consuming wants waits first
  | fails consuming wants waits first =>
    left
    simp only [Downstream.weight, consuming, first, List.length_cons]
    omega

theorem Worker.Step.weight {capacity : Nat} {w after : Worker} {rest restAfter : Downstream σ ε}
    (step : w.Step capacity rest after restAfter) :
    (worker after restAfter).weight < (worker w rest).weight ∧
      restAfter.recordCost = rest.recordCost := by
  cases step with
  | sends atWork sending =>
    refine ⟨?_, recordCost_put _ _⟩
    simp only [Downstream.weight, recordCost_put, weight_put, sending, Option.toList_some,
      Option.toList_none, List.length_cons, List.length_nil]
    omega
  | isRefused atWork | isStarved atWork =>
    refine ⟨?_, recordCost_close _⟩
    simp only [Downstream.weight, recordCost_close, weight_close, atWork]
    simp
  | receives atWork idle first =>
    -- the stage may drop the record or pass one on
    refine ⟨?_, rfl⟩
    rw [Worker.receive]
    rcases w.stage.step _ with ⟨stage, _ | sending⟩
    · simp only [Downstream.weight, idle, first, List.length_cons, Nat.succ_mul]
      omega
    · simp only [Downstream.weight, idle, first, List.length_cons, Nat.succ_mul,
        Option.toList_some, Option.toList_none, List.length_nil]
      omega

theorem Downstream.Step.isNearer {sink : Sink σ ε} {capacity : Nat}
    {before after : Downstream σ ε} (step : before.Step capacity sink after) :
    after.IsNearer before ∧ after.recordCost = before.recordCost := by
  induction step with
  | consumer step => exact ⟨step.isNearer, rfl⟩
  | worker step =>
    obtain ⟨less, same⟩ := step.weight
    exact ⟨.inl less, congrArg (· + 2) same⟩
  | behind step ih =>
    obtain ⟨nearer, same⟩ := ih
    refine ⟨?_, congrArg (· + 2) same⟩
    simp only [IsNearer, Downstream.weight, Downstream.last, same] at nearer ⊢
    omega

/-- The weight of a network whose source has `left` lines left. -/
def weight (network : Network ι σ ε) (left : Nat) : Nat :=
  let cost := network.downstream.recordCost + 3
  network.downstream.weight + match network.intake.phase with
    | .checking => left * cost + 3
    | .reading => left * cost + 2
    | .sending _ => left * cost + cost + 1
    | .ended => 0

def IsNearer (after : Network ι σ ε) (leftAfter : Nat) (before : Network ι σ ε)
    (left : Nat) : Prop :=
  after.weight leftAfter < before.weight left ∨
    after.weight leftAfter = before.weight left ∧
      after.downstream.last.ticker 0 < before.downstream.last.ticker 0

theorem isNearer_of_downstream {intake : Intake ι} {before after : Downstream σ ε}
    (step : after.IsNearer before ∧ after.recordCost = before.recordCost) (left : Nat) :
    IsNearer ⟨intake, after⟩ left ⟨intake, before⟩ left := by
  obtain ⟨nearer, same⟩ := step
  simp only [Downstream.IsNearer] at nearer
  simp only [IsNearer, Network.weight, same]
  omega

theorem Step.isNearer {setup : Setup ι σ ε} {before after : Network ι σ ε}
    (step : before.Step setup after) {lines : List String}
    (yields : Yields setup.next? before.intake.source lines) :
    ∃ linesAfter, Yields setup.next? after.intake.source linesAfter ∧
      after.IsNearer linesAfter.length before lines.length := by
  cases step with
  | downstream step => exact ⟨lines, yields, isNearer_of_downstream step.isNearer _⟩
  | intake step =>
    cases step with
    | checks phase | isTold phase | isStarved phase | isRefused phase =>
      refine ⟨lines, yields, .inl ?_⟩
      simp only [Network.weight, Intake.finish, weight_close, phase]
      omega
    | @reads line source phase next =>
      -- a line less is left
      cases lines with
      | nil => rw [Yields, next] at yields; cases yields
      | cons first lines =>
        obtain ⟨behind, step, yields⟩ := yields
        rw [next] at step
        cases step
        refine ⟨lines, yields, .inl ?_⟩
        simp only [Network.weight, phase, List.length_cons, Nat.succ_mul]
        omega
    | sends phase =>
      refine ⟨lines, yields, .inl ?_⟩
      simp only [Network.weight, recordCost_put, weight_put, phase]
      omega

/-- Has every run from here an end? -/
def Terminates (setup : Setup ι σ ε) (network : Network ι σ ε) : Prop :=
  Acc (fun after before => after ∈ before.steps setup) network

theorem terminates_of_yields {setup : Setup ι σ ε} {network : Network ι σ ε} {lines : List String}
    (yields : Yields setup.next? network.intake.source lines) : network.Terminates setup := by
  constructor
  intro after step
  obtain ⟨linesAfter, yieldsAfter, nearer⟩ := (step_of_mem step).isNearer yields
  exact terminates_of_yields yieldsAfter
termination_by (network.weight lines.length, network.downstream.last.ticker 0)
decreasing_by exact Prod.lex_def.2 nearer

end LogQuery.Pipeline.Network

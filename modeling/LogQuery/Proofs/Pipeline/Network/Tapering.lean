import LogQuery.Proofs.Pipeline.Network.Counts

/-! What the processes count never rises from one process to the next.

Each count is taken in a process of its own, ahead of or behind the step that it counts, and records
that wait in a queue are lost when the process behind it stops. What bears the bound through all
that is an account for each queue: whatever was sent into it was counted before, and whatever came
out of it has either been counted behind it or is still held.
-/

set_option autoImplicit false

namespace LogQuery.Pipeline.Network

variable {ι σ ε : Type}

/-- Has each process passed on or kept no more records than were sent to it, if `sent` records were
sent to the first one? -/
def Downstream.Tapers : Downstream σ ε → (sent : Nat) → Prop
  | consumer c, sent => c.consumed.length + c.inbox.records.length ≤ sent
  | worker w rest, sent =>
    w.passed + w.sending.toList.length + w.inbox.records.length ≤ sent ∧ rest.Tapers w.passed

/-- Has the sink, which was in state `origin` at first, come to its state by the records that were
handed to it and the ticks among them, and does the consumer count just these records? Of a run that
failed nothing is told. -/
def Consumer.Accounts (sink : Sink σ ε) (origin : σ) (ticker : Ticker) (c : Consumer σ ε) : Prop :=
  match c.phase with
  | .consuming | .finishing => ∃ met, sink.Meets origin ticker met c.consumed c.state c.ticker
  | .stopping (.ok delivered) | .ended (.ok delivered) =>
    delivered = c.consumed.length ∧
      ∃ met state, sink.Meets origin ticker met c.consumed state c.ticker ∧
        c.state = (sink.finish state).1
  | .stopping (.error _) | .ended (.error _) => True

namespace Downstream

def filterTexts (downstream : Downstream σ ε) : List String :=
  downstream.workers.filterMap (·.stage.filterText?)

variable {downstream : Downstream σ ε} {sent : Nat}

@[simp] theorem filterTexts_worker (w : Worker) (rest : Downstream σ ε) :
    (worker w rest).filterTexts = w.stage.filterText?.toList ++ rest.filterTexts := by
  rw [filterTexts, workers, List.filterMap_cons]
  cases w.stage.filterText? <;> rfl

@[simp] theorem filterTexts_put (record : Record) (downstream : Downstream σ ε) :
    (downstream.put record).filterTexts = downstream.filterTexts := by
  cases downstream <;> rfl

@[simp] theorem filterTexts_close (downstream : Downstream σ ε) :
    downstream.close.filterTexts = downstream.filterTexts := by
  cases downstream <;> rfl

section Account

variable {sink : Sink σ ε} {origin : σ} {ticker : Ticker}

theorem accounts_put (accounts : downstream.last.Accounts sink origin ticker) (record : Record) :
    (downstream.put record).last.Accounts sink origin ticker := by
  cases downstream <;> exact accounts

theorem accounts_close (accounts : downstream.last.Accounts sink origin ticker) :
    downstream.close.last.Accounts sink origin ticker := by
  cases downstream <;> exact accounts

end Account

theorem Tapers.put (tapers : downstream.Tapers sent) (record : Record) :
    (downstream.put record).Tapers (sent + 1) := by
  cases downstream with
  | consumer c =>
    simp only [Tapers, Downstream.put, mapInbox, List.length_append,
      List.length_singleton] at tapers ⊢
    omega
  | worker w rest =>
    obtain ⟨bound, tapers⟩ := tapers
    refine ⟨?_, tapers⟩
    simp only [List.length_append, List.length_singleton]
    omega

theorem Tapers.close (tapers : downstream.Tapers sent) : downstream.close.Tapers sent := by
  cases downstream <;> exact tapers

theorem Tapers.descend (tapers : downstream.Tapers sent) :
    (sent :: (downstream.workers.map (·.passed) ++ [downstream.last.consumed.length])).Pairwise
      (· ≥ ·) := by
  induction downstream generalizing sent with
  | consumer c =>
    rw [Tapers] at tapers
    simp only [workers, last, List.map_nil, List.nil_append, List.pairwise_pair]
    omega
  | worker w rest ih =>
    obtain ⟨bound, tapers⟩ := tapers
    have below := ih tapers
    have passed_le : w.passed ≤ sent := by omega
    rw [workers, List.map_cons, List.cons_append, last, List.pairwise_cons]
    refine ⟨fun count member => ?_, below⟩
    rcases List.mem_cons.1 member with rfl | member
    · exact passed_le
    · exact Nat.le_trans (List.rel_of_pairwise_cons below member) passed_le

end Downstream

/-! ### One step -/

theorem Consumer.Step.accounts {sink : Sink σ ε} {origin : σ} {ticker : Ticker}
    {c after : Consumer σ ε} (step : c.Step sink after) (accounts : c.Accounts sink origin ticker) :
    after.Accounts sink origin ticker := by
  cases step with
  | updates consuming wants ticks updates =>
    simp only [Accounts, consuming] at accounts ⊢
    obtain ⟨met, meets⟩ := accounts
    exact ⟨_, meets.tick ticks updates⟩
  | takes consuming wants waits first takes | takesLast consuming wants waits first takes =>
    simp only [Accounts, consuming] at accounts ⊢
    obtain ⟨met, meets⟩ := accounts
    exact ⟨_, meets.record waits takes⟩
  | failsToUpdate | fails => trivial
  | isDone consuming | isStarved consuming =>
    simp only [Accounts, consuming] at accounts ⊢
    exact accounts
  | finishes finishing =>
    simp only [Accounts, finishing] at accounts ⊢
    obtain ⟨met, meets⟩ := accounts
    cases (sink.finish c.state).2 with
    | ok => exact ⟨rfl, met, _, meets, rfl⟩
    | error => trivial
  | @ends result stopping =>
    rw [Accounts, stopping] at accounts
    cases result <;> exact accounts

theorem Consumer.Step.tapers {sink : Sink σ ε} {c after : Consumer σ ε} (step : c.Step sink after)
    {sent : Nat} (tapers : (Downstream.consumer c).Tapers sent) :
    (Downstream.consumer after).Tapers sent := by
  cases step with
  | takes _ _ _ first | takesLast _ _ _ first | fails _ _ _ first =>
    simp only [Downstream.Tapers, first, List.length_append, List.length_cons,
      List.length_nil] at tapers ⊢
    omega
  | updates | failsToUpdate | isDone | isStarved | finishes | ends => exact tapers

theorem Worker.Step.tapers {capacity : Nat} {w after : Worker} {rest restAfter : Downstream σ ε}
    (step : w.Step capacity rest after restAfter) {sent : Nat}
    (tapers : (Downstream.worker w rest).Tapers sent) :
    (Downstream.worker after restAfter).Tapers sent := by
  obtain ⟨bound, tapers⟩ := tapers
  cases step with
  | sends _ sending =>
    refine ⟨?_, tapers.put _⟩
    simp only [sending, Option.toList_some, Option.toList_none, List.length_singleton,
      List.length_nil] at bound ⊢
    omega
  | isRefused | isStarved => exact ⟨bound, tapers.close⟩
  | @receives record records _ idle first =>
    refine ⟨?_, tapers⟩
    -- the stage makes one record of it at most
    have made : (w.stage.step record).2.toList.length ≤ 1 := by
      cases (w.stage.step record).2 <;> simp
    simp only [receive]
    simp only [idle, first, Option.toList_none, List.length_nil, List.length_cons] at bound
    omega

theorem Downstream.Step.tapers {capacity : Nat} {sink : Sink σ ε} {before after : Downstream σ ε}
    (step : before.Step capacity sink after) {sent : Nat} (tapers : before.Tapers sent) :
    after.Tapers sent := by
  induction step generalizing sent with
  | consumer step => exact step.tapers tapers
  | worker step => exact step.tapers tapers
  | behind _ ih => exact ⟨tapers.1, ih tapers.2⟩

theorem Worker.Step.accounts {sink : Sink σ ε} {origin : σ} {ticker : Ticker} {capacity : Nat}
    {w after : Worker} {rest restAfter : Downstream σ ε} (step : w.Step capacity rest after restAfter)
    (accounts : rest.last.Accounts sink origin ticker) :
    restAfter.last.Accounts sink origin ticker := by
  cases step with
  | sends => exact Downstream.accounts_put accounts _
  | isRefused | isStarved => exact Downstream.accounts_close accounts
  | receives => exact accounts

theorem Downstream.Step.accounts {capacity : Nat} {sink : Sink σ ε} {origin : σ}
    {ticker : Ticker} {before after : Downstream σ ε} (step : before.Step capacity sink after)
    (accounts : before.last.Accounts sink origin ticker) :
    after.last.Accounts sink origin ticker := by
  induction step with
  | consumer step => exact step.accounts accounts
  | worker step => exact step.accounts accounts
  | behind _ ih => exact ih accounts

theorem Worker.Step.filterTexts {capacity : Nat} {w after : Worker}
    {rest restAfter : Downstream σ ε} (step : w.Step capacity rest after restAfter) :
    (Downstream.worker after restAfter).filterTexts = (Downstream.worker w rest).filterTexts := by
  cases step with
  | sends | isRefused | isStarved => simp
  | receives => simp [receive, Stage.filterText?_step]

theorem Downstream.Step.filterTexts {capacity : Nat} {sink : Sink σ ε}
    {before after : Downstream σ ε} (step : before.Step capacity sink after) :
    after.filterTexts = before.filterTexts := by
  induction step with
  | consumer => rfl
  | worker step => exact step.filterTexts
  | behind _ ih => simp [ih]

/-! ### Every run -/

def Intake.unsent (intake : Intake ι) : Nat :=
  match intake.phase with
  | .sending _ => 1
  | _ => 0

variable {setup : Setup ι σ ε} {stages : List Stage} {origin : ι} {state : σ} {ticker : Ticker}

/-- What holds of the counts on the way, whatever has become of the sink. -/
structure Tallies (setup : Setup ι σ ε) (stages : List Stage) (state : σ) (ticker : Ticker)
    (network : Network ι σ ε) : Prop where
  tapers : ∃ sent, sent + network.intake.unsent ≤ network.intake.linesRead ∧
    network.downstream.Tapers sent
  accounts : network.downstream.last.Accounts setup.sink state ticker
  filterTexts : network.downstream.filterTexts = stages.filterMap Stage.filterText?

theorem tallies_ofStages :
    Tallies setup stages state ticker (ofStages stages origin state ticker) := by
  rw [ofStages]
  constructor
  case tapers =>
    refine ⟨0, Nat.le_refl 0, ?_⟩
    induction stages with
    | nil => exact Nat.le_refl 0
    | cons stage stages ih => exact ⟨Nat.le_refl 0, ih⟩
  case accounts =>
    induction stages with
    | nil => exact ⟨[], .nil⟩
    | cons stage stages ih => exact ih
  case filterTexts =>
    induction stages with
    | nil => rfl
    | cons stage stages ih =>
      rw [List.foldr_cons, Downstream.filterTexts_worker, ih, List.filterMap_cons]
      cases stage.filterText? <;> rfl

theorem Tallies.finish {network : Network ι σ ε}
    (tallies : Tallies setup stages state ticker network) :
    Tallies setup stages state ticker (network.intake.finish network.downstream) := by
  obtain ⟨⟨sent, bound, tapers⟩, accounts, filterTexts⟩ := tallies
  refine ⟨⟨sent, ?_, tapers.close⟩, Downstream.accounts_close accounts,
    (Downstream.filterTexts_close _).trans filterTexts⟩
  simp only [Intake.finish, Intake.unsent]
  omega

theorem Intake.Step.tallies {network after : Network ι σ ε}
    (step : network.intake.Step setup network.downstream after)
    (tallies : Tallies setup stages state ticker network) :
    Tallies setup stages state ticker after := by
  have ends := tallies.finish
  obtain ⟨⟨sent, bound, tapers⟩, accounts, filterTexts⟩ := tallies
  cases step with
  | checks =>
    refine ⟨⟨sent, ?_, tapers⟩, accounts, filterTexts⟩
    simp only [Intake.unsent]
    omega
  | isTold | isStarved | isRefused => exact ends
  | reads =>
    refine ⟨⟨sent, ?_, tapers⟩, accounts, filterTexts⟩
    simp only [Intake.unsent]
    omega
  | sends sending =>
    simp only [Intake.unsent, sending] at bound
    exact ⟨⟨sent + 1, bound, tapers.put _⟩, Downstream.accounts_put accounts _,
      (Downstream.filterTexts_put ..).trans filterTexts⟩

theorem Step.tallies {before after : Network ι σ ε} (step : before.Step setup after)
    (tallies : Tallies setup stages state ticker before) :
    Tallies setup stages state ticker after := by
  cases step with
  | intake step => exact step.tallies tallies
  | downstream step =>
    obtain ⟨⟨sent, bound, tapers⟩, accounts, filterTexts⟩ := tallies
    exact ⟨⟨sent, bound, step.tapers tapers⟩, step.accounts accounts,
      step.filterTexts.trans filterTexts⟩

theorem tallies_of_reaches {network : Network ι σ ε}
    (reaches : Reaches setup (ofStages stages origin state ticker) network) :
    Tallies setup stages state ticker network := by
  induction reaches with
  | refl => exact tallies_ofStages
  | step _ step ih => exact (step_of_mem step).tallies ih

/-! ### The counts that are told -/

theorem texts_passed (network : Network ι σ ε) :
    network.passed.map (·.1) = network.downstream.filterTexts := by
  rw [passed, Downstream.filterTexts, List.map_filterMap]
  congr 1
  funext w
  rw [Option.map_map]
  exact Option.map_id'

theorem sublist_passed (network : Network ι σ ε) :
    (network.passed.map (·.2)).Sublist (network.downstream.workers.map (·.passed)) := by
  rw [passed]
  induction network.downstream.workers with
  | nil => exact List.Sublist.slnil
  | cons w workers ih =>
    rw [List.filterMap_cons, List.map_cons]
    cases w.stage.filterText? with
    | none => exact ih.cons _
    | some text => exact ih.cons_cons _

/-- Whoever comes later counts no more. -/
theorem Tallies.descend {network : Network ι σ ε}
    (tallies : Tallies setup stages state ticker network) :
    (network.intake.linesRead ::
      (network.passed.map (·.2) ++ [network.downstream.last.consumed.length])).Pairwise
        (· ≥ ·) := by
  obtain ⟨sent, bound, tapers⟩ := tallies.tapers
  have counts := tapers.descend.sublist
    (((sublist_passed network).append_right
      [network.downstream.last.consumed.length]).cons_cons sent)
  rw [List.pairwise_cons] at counts ⊢
  refine ⟨fun count member => ?_, counts.2⟩
  have below := counts.1 count member
  omega

end LogQuery.Pipeline.Network

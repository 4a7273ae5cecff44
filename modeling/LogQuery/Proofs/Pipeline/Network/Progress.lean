import LogQuery.Proofs.Pipeline.Network.Outlook

/-! A network never stands still before all its processes have ended, and it does come to a stand
when its source has an end. -/

set_option autoImplicit false

namespace LogQuery.Pipeline.Network

variable {ι σ ε : Type}

/-! ### Where no process can go on -/

def Inbox.isAwaited (inbox : Inbox) : Prop := inbox.records = [] ∧ inbox.isFed = true

theorem Consumer.stuck {sink : Sink σ ε} {c : Consumer σ ε} (stuck : c.step? sink = none) :
    c.hasEnded = true ∨ c.inbox.isAwaited := by
  unfold Consumer.step? at stuck
  split at stuck
  · split at stuck
    · split at stuck
      · split at stuck <;> cases stuck
      · split at stuck <;> cases stuck
      · next empty =>
        split at stuck
        · next fed => exact .inr ⟨empty, fed⟩
        · cases stuck
    · cases stuck
  · cases stuck
  · cases stuck
  · next ended => exact .inl (by simp [hasEnded, ended])

namespace Downstream

variable {capacity : Nat} {sink : Sink σ ε} {downstream : Downstream σ ε}

theorem hasEnded_unheard {c : Consumer σ ε} (ended : c.hasEnded = true) :
    (consumer c).isListening = false := by
  rw [Bool.eq_false_iff, Ne, isListening_consumer]
  intro consuming
  simp [Consumer.hasEnded, consuming] at ended

theorem unblocked (positive : 0 < capacity)
    (awaited : downstream.isListening = true → downstream.inbox.isAwaited) (record : Record) :
    downstream.send capacity record ≠ .blocked := by
  intro blocked
  obtain ⟨listening, full⟩ := send_blocked blocked
  rw [(awaited listening).1] at full
  exact absurd positive (Nat.not_lt.2 full)

/-- A process that cannot go on, but has not ended, waits for a record. -/
theorem awaited_of_stuck (positive : 0 < capacity) (stuck : downstream.steps capacity sink = [])
    (listening : downstream.isListening = true) : downstream.inbox.isAwaited := by
  induction downstream with
  | consumer c =>
    simp only [steps, List.map_eq_nil_iff, Option.toList_eq_nil_iff] at stuck
    rcases Consumer.stuck stuck with ended | awaited
    · rw [hasEnded_unheard ended] at listening
      cases listening
    · exact awaited
  | worker w rest ih =>
    simp only [steps, List.append_eq_nil_iff, List.map_eq_nil_iff, Option.toList_eq_nil_iff] at stuck
    have atWork : w.hasEnded = false := by simpa using listening
    have waits := stuck.1
    unfold Worker.step? at waits
    rw [if_neg (by simp [atWork])] at waits
    split at waits
    · split at waits
      · cases waits
      · next blocked => exact absurd blocked (unblocked positive (ih stuck.2) _)
      · cases waits
    · split at waits
      · cases waits
      · next empty =>
        split at waits
        · next fed => exact ⟨empty, fed⟩
        · cases waits

theorem ended_of_stuck (positive : 0 < capacity) (stuck : downstream.steps capacity sink = [])
    (linked : downstream.IsLinked false) :
    downstream.workers.all (·.hasEnded) = true ∧ downstream.last.hasEnded = true := by
  induction downstream with
  | consumer c =>
    simp only [steps, List.map_eq_nil_iff, Option.toList_eq_nil_iff] at stuck
    refine ⟨rfl, ?_⟩
    rcases Consumer.stuck stuck with ended | awaited
    · exact ended
    · have unfed : c.inbox.isFed = false := linked
      rw [Inbox.isAwaited, unfed] at awaited
      cases awaited.2
  | worker w rest ih =>
    obtain ⟨unfed, linked⟩ := linked
    -- one that is at work would wait for a record, but its queue is closed
    have ended : w.hasEnded = true := by
      cases ended : w.hasEnded with
      | true => rfl
      | false =>
        have awaited := awaited_of_stuck positive stuck (by simp [ended])
        rw [inbox, Inbox.isAwaited, unfed] at awaited
        cases awaited.2
    rw [ended] at linked
    simp only [steps, List.append_eq_nil_iff, List.map_eq_nil_iff] at stuck
    obtain ⟨workers, last⟩ := ih stuck.2 linked
    exact ⟨by simp [Downstream.workers, ended, workers], last⟩

end Downstream

variable {setup : Setup ι σ ε} {stages : List Stage} {origin : ι} {state : σ}
  {ticker : Ticker} {network : Network ι σ ε}

/-- No process ever waits for another in vain. -/
theorem Follows.finished (follows : Follows setup stages origin state ticker network)
    (stuck : network.steps setup = []) : network.isFinished = true := by
  simp only [steps, List.append_eq_nil_iff, List.map_eq_nil_iff, Option.toList_eq_nil_iff] at stuck
  obtain ⟨waits, stuck⟩ := stuck
  -- intake is the first to end; what comes behind it follows by the closing of the queues
  have ended : network.intake.phase = .ended := by
    unfold Intake.step? at waits
    split at waits
    · split at waits <;> cases waits
    · split at waits <;> cases waits
    · split at waits
      · cases waits
      · next blocked =>
        have awaited := Downstream.awaited_of_stuck setup.capacity_pos stuck
        exact absurd blocked (Downstream.unblocked setup.capacity_pos awaited _)
      · cases waits
    · next ended => exact ended
  have linked := follows.linked
  rw [Intake.isAtWork, ended] at linked
  obtain ⟨workers, last⟩ := Downstream.ended_of_stuck setup.capacity_pos stuck linked
  simp [isFinished, ended, workers, last]

end LogQuery.Pipeline.Network

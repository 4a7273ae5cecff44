import LogQuery.Sink

/-! What a sink is called for in a run, and in which order.

A sink can keep a record of its own calls, which makes no difference to the run.
-/

set_option autoImplicit false

namespace LogQuery

namespace Sink

/-! ### Calls -/

inductive Call (ε : Type) where
  | consume (record : Record) (answer : Except ε Bool)
  | update (answer : Except ε Unit)
  | finish (answer : Except ε Unit)

namespace Call

variable {ε : Type}

def record? : Call ε → Option Record
  | consume record _ => some record
  | _ => none

def isFinish : Call ε → Bool
  | finish _ => true
  | _ => false

def failure? : Call ε → Option ε
  | consume _ (.error e) | update (.error e) | finish (.error e) => some e
  | _ => none

def breaksOff (call : Call ε) : Bool := !call.isFinish && call.failure?.isSome

def goesOn : Call ε → Bool
  | consume _ (.ok more) => more
  | update (.ok ()) => true
  | _ => false

variable {call : Call ε}

theorem of_goesOn (goesOn : call.goesOn = true) :
    call.isFinish = false ∧ call.failure? = none := by
  cases call with
  | consume record answer => cases answer <;> simp [Call.goesOn, isFinish, failure?] at *
  | update answer => cases answer <;> simp [Call.goesOn, isFinish, failure?] at *
  | finish answer => cases goesOn

end Call

abbrev Log (σ ε : Type) := List (σ × Call ε)

variable {σ ε : Type}

def Log.consumed (log : Log σ ε) : List Record := log.filterMap (·.2.record?)

theorem Log.consumed_cons (state : σ) (call : Call ε) (log : Log σ ε) :
    Log.consumed ((state, call) :: log) = call.record?.toList ++ Log.consumed log := by
  rw [consumed, List.filterMap_cons]
  dsimp only
  cases call.record? <;> rfl

/-- The result of a run with these calls, when so many records were taken before: the first failure,
or the number of records taken. -/
def Log.outcome (taken : Nat) (log : Log σ ε) : Except ε Nat :=
  (log.findSome? (·.2.failure?)).elim (.ok (taken + log.consumed.length)) .error

theorem Log.outcome_cons {call : Call ε} (sound : call.failure? = none) (state : σ) (taken : Nat)
    (log : Log σ ε) : Log.outcome taken ((state, call) :: log) =
      Log.outcome (taken + call.record?.toList.length) log := by
  rw [outcome, outcome, List.findSome?_cons, sound, consumed_cons, List.length_append,
    Nat.add_assoc]

/-- The sink with the calls that were made of it. -/
def recording (sink : Sink σ ε) : Sink (σ × Log σ ε) ε where
  wantsMore := fun (state, _) => sink.wantsMore state
  consume := fun (state, log) record =>
    let (next, answer) := sink.consume state record
    ((next, log ++ [(state, .consume record answer)]), answer)
  update := fun (state, log) =>
    let (next, answer) := sink.update state
    ((next, log ++ [(state, .update answer)]), answer)
  finish := fun (state, log) =>
    let (next, answer) := sink.finish state
    ((next, log ++ [(state, .finish answer)]), answer)

def Answers (sink : Sink σ ε) (state next : σ) : Call ε → Prop
  | .consume record answer => sink.consume state record = (next, answer)
  | .update answer => sink.update state = (next, answer)
  | .finish answer => sink.finish state = (next, answer)

inductive Leads (sink : Sink σ ε) : (start : σ) → Log σ ε → (final : σ) → Prop where
  | nil (state : σ) : Leads sink state [] state
  | cons {state next final : σ} {call : Call ε} {later : Log σ ε} : sink.Answers state next call →
    Leads sink next later final → Leads sink state ((state, call) :: later) final

/-- The calls of a run that keeps to the rules when these records are offered. -/
structure KeepsRules (sink : Sink σ ε) (start : σ) (records : List Record) (log : Log σ ε)
    (final : σ) : Prop where
  leads : sink.Leads start log final
  inOrder : log.consumed <+: records
  /-- the sink is asked before every call but the last -/
  wanted : ∀ entry ∈ log, entry.2.isFinish = false → sink.wantsMore entry.1 = true
  /-- behind a sink that stops it is only finished, and behind a failure nothing is called -/
  ordered : log.Pairwise fun earlier later =>
    earlier.2.goesOn = true ∨ later.2.isFinish = true ∧ earlier.2.failure? = none
  finished : log.countP (·.2.isFinish) = if log.any (·.2.breaksOff) then 0 else 1
  complete : (∀ entry ∈ log, sink.wantsMore entry.1 = true ∧
    (entry.2.isFinish = true ∨ entry.2.goesOn = true)) → log.consumed = records

section

variable {sink : Sink σ ε} {state next final : σ} {records : List Record} {log : Log σ ε}
  {call : Call ε}

theorem KeepsRules.finish {answer : Except ε Unit} (finishes : sink.finish state = (final, answer))
    (done : sink.wantsMore state = true → records = []) :
    sink.KeepsRules state records [(state, .finish answer)] final where
  leads := .cons finishes (.nil final)
  inOrder := List.nil_prefix
  wanted := by simp [Call.isFinish]
  ordered := List.pairwise_singleton _ _
  finished := rfl
  complete wants := (done (wants _ (List.mem_singleton_self _)).1).symm

theorem KeepsRules.stop (wants : sink.wantsMore state = true) {record : Record}
    (stops : sink.consume state record = (next, .ok false)) {answer : Except ε Unit}
    (finishes : sink.finish next = (final, answer)) (records : List Record) :
    sink.KeepsRules state (record :: records)
      [(state, .consume record (.ok false)), (next, .finish answer)] final where
  leads := .cons stops (.cons finishes (.nil final))
  inOrder := List.cons_prefix_cons.2 ⟨rfl, List.nil_prefix⟩
  wanted := by simp [Call.isFinish, wants]
  ordered := by simp [Call.isFinish, Call.failure?]
  finished := rfl
  complete goesOn := by
    obtain ⟨-, more⟩ := goesOn _ List.mem_cons_self
    simp [Call.isFinish, Call.goesOn] at more

theorem KeepsRules.breakOff (wants : sink.wantsMore state = true)
    (answers : sink.Answers state final call) {e : ε} (failed : call.failure? = some e)
    (early : call.isFinish = false) (offered : call.record?.toList <+: records) :
    sink.KeepsRules state records [(state, call)] final where
  leads := .cons answers (.nil final)
  inOrder := by
    rw [Log.consumed_cons]
    exact (List.append_nil call.record?.toList).symm ▸ offered
  wanted := by simp [wants]
  ordered := List.pairwise_singleton _ _
  finished := by simp [early, Call.breaksOff, failed]
  complete goesOn := by
    obtain ⟨-, finish | more⟩ := goesOn _ List.mem_cons_self
    · cases early.symm.trans finish
    · cases failed.symm.trans (Call.of_goesOn more).2

theorem KeepsRules.cons (wants : sink.wantsMore state = true)
    (answers : sink.Answers state next call) (goesOn : call.goesOn = true)
    (rest : sink.KeepsRules next records log final) {offered : List Record}
    (first : offered = call.record?.toList ++ records) :
    sink.KeepsRules state offered ((state, call) :: log) final := by
  subst first
  obtain ⟨early, sound⟩ := Call.of_goesOn goesOn
  exact {
    leads := .cons answers rest.leads
    inOrder := by
      rw [Log.consumed_cons, List.prefix_append_right_inj]
      exact rest.inOrder
    wanted := List.forall_mem_cons.2 ⟨fun _ => wants, rest.wanted⟩
    ordered := List.pairwise_cons.2 ⟨fun _ _ => .inl goesOn, rest.ordered⟩
    finished := by
      have calm : call.breaksOff = false := by simp [Call.breaksOff, sound]
      rw [List.countP_cons_of_neg (by simp [early]), rest.finished, List.any_cons, calm,
        Bool.false_or]
    complete := fun all => by
      rw [Log.consumed_cons, rest.complete (List.forall_mem_cons.1 all).2] }

end

theorem runFrom_recording (sink : Sink σ ε) (state : σ) (log : Log σ ε) (taken : Nat)
    (arrivals : List Arrival) :
    let recorded := sink.recording.runFrom (state, log) taken arrivals
    sink.runFrom state taken arrivals = (recorded.1.1, recorded.2) := by
  induction arrivals generalizing state log taken with
  | nil => rfl
  | cons arrival arrivals ih =>
    cases wants : sink.wantsMore state with
    | false =>
      simp only [runFrom, recording, wants]
      rfl
    | true =>
      cases arrival with
      | record record =>
        cases consumed : sink.consume state record with | mk next answer
        match answer with
        | .ok true => simpa [runFrom, recording, wants, consumed] using ih next _ _
        | .ok false =>
          simp only [runFrom, recording, wants, consumed]
          rfl
        | .error e => simp [runFrom, recording, wants, consumed]
      | tick =>
        cases updated : sink.update state with | mk next answer
        match answer with
        | .ok () => simpa [runFrom, recording, wants, updated] using ih next _ _
        | .error e => simp [runFrom, recording, wants, updated]

theorem close_recording (sink : Sink σ ε) (state : σ) (log : Log σ ε) (taken : Nat) :
    ∃ final answer, sink.finish state = (final, answer) ∧
      sink.recording.close (state, log) taken =
        ((final, log ++ [(state, .finish answer)]), Log.outcome taken [(state, .finish answer)]) := by
  have told (answer : Except ε Unit) :
      answer.map (fun _ => taken) = Log.outcome taken [(state, .finish answer)] := by
    cases answer <;> rfl
  refine ⟨(sink.finish state).1, (sink.finish state).2, rfl, ?_⟩
  rw [← told]
  rfl

theorem keepsRules_runFrom (sink : Sink σ ε) (state : σ) (log : Log σ ε) (taken : Nat)
    (arrivals : List Arrival) :
    ∃ final later, sink.recording.runFrom (state, log) taken arrivals =
        ((final, log ++ later), later.outcome taken) ∧
      sink.KeepsRules state (arrivals.filterMap Arrival.record?) later final := by
  -- by the arrivals; what was called before stands in front of the log and is not looked at again
  induction arrivals generalizing state log taken with
  | nil =>
    obtain ⟨final, answer, finishes, closes⟩ := close_recording sink state log taken
    exact ⟨final, _, closes, .finish finishes fun _ => rfl⟩
  | cons arrival arrivals ih =>
    cases wants : sink.wantsMore state with
    | false =>
      obtain ⟨final, answer, finishes, closes⟩ := close_recording sink state log taken
      refine ⟨final, [(state, .finish answer)], ?_, .finish finishes fun more => ?_⟩
      · rw [← closes]
        simp [runFrom, recording, wants]
      · cases wants.symm.trans more
    | true =>
      cases arrival with
      | record record =>
        cases consumed : sink.consume state record with | mk next answer
        match answer with
        | .ok true =>
          obtain ⟨final, later, runs, rules⟩ :=
            ih next (log ++ [(state, .consume record (.ok true))]) (taken + 1)
          have answers : sink.Answers state next (.consume record (.ok true)) := consumed
          refine ⟨final, (state, .consume record (.ok true)) :: later, ?_,
            rules.cons wants answers rfl rfl⟩
          rw [List.append_cons, Log.outcome_cons rfl]
          refine Eq.trans ?_ runs
          simp [runFrom, recording, wants, consumed]
        | .ok false =>
          obtain ⟨final, answer, finishes, closes⟩ := close_recording sink next
            (log ++ [(state, .consume record (.ok false))]) (taken + 1)
          refine ⟨final, [(state, .consume record (.ok false)), (next, .finish answer)], ?_,
            .stop wants consumed finishes _⟩
          rw [List.append_cons, Log.outcome_cons rfl]
          refine Eq.trans ?_ closes
          simp [runFrom, recording, wants, consumed]
        | .error e =>
          refine ⟨next, [(state, .consume record (.error e))], ?_,
            .breakOff wants consumed rfl rfl (List.prefix_append [record] _)⟩
          simp [runFrom, recording, wants, consumed, Log.outcome, Call.failure?]
      | tick =>
        cases updated : sink.update state with | mk next answer
        match answer with
        | .ok () =>
          obtain ⟨final, later, runs, rules⟩ := ih next (log ++ [(state, .update (.ok ()))]) taken
          have answers : sink.Answers state next (.update (.ok ())) := updated
          refine ⟨final, (state, .update (.ok ())) :: later, ?_, rules.cons wants answers rfl rfl⟩
          rw [List.append_cons, Log.outcome_cons rfl]
          refine Eq.trans ?_ runs
          simp [runFrom, recording, wants, updated]
        | .error e =>
          refine ⟨next, [(state, .update (.error e))], ?_,
            .breakOff wants updated rfl rfl List.nil_prefix⟩
          simp [runFrom, recording, wants, updated, Log.outcome, Call.failure?]

end Sink

end LogQuery

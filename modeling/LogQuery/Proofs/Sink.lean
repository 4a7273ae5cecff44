import LogQuery.Collector

/-! What a sink takes of the records that it is offered. -/

set_option autoImplicit false

namespace LogQuery

theorem Arrival.records_cons (arrival : Arrival) (arrivals : List Arrival) :
    (arrival :: arrivals).filterMap record? =
      arrival.record?.toList ++ arrivals.filterMap record? := by
  cases arrival <;> rfl

namespace Ticker

variable {ticker behind : Ticker}

theorem arrivals_tick (ticks : ticker.tick? = some behind) (records : List Record) :
    ticker.arrivals records = .tick :: behind.arrivals records := by
  unfold tick? at ticks
  split at ticks
  · cases ticks
  · next count first =>
    cases ticks
    cases records with
    | nil => simp only [arrivals, first, List.replicate_succ]
    | cons record records =>
      simp only [arrivals, first, List.replicate_succ, List.cons_append]
      rfl

theorem fewer_ahead (ticks : ticker.tick? = some behind) : behind 0 < ticker 0 := by
  unfold tick? at ticks
  split at ticks
  · cases ticks
  · next count first =>
    cases ticks
    rw [first]
    exact Nat.lt_succ_self count

theorem none_ahead (waits : ticker.tick? = none) : ticker 0 = 0 := by
  unfold tick? at waits
  split at waits
  · assumption
  · cases waits

theorem arrivals_record (waits : ticker.tick? = none) (record : Record) (records : List Record) :
    ticker.arrivals (record :: records) = .record record :: ticker.next.arrivals records := by
  rw [arrivals, none_ahead waits]
  rfl

theorem arrivals_nil (waits : ticker.tick? = none) : ticker.arrivals [] = [] := by
  rw [arrivals, none_ahead waits]
  rfl

@[simp] theorem records_arrivals (ticker : Ticker) (records : List Record) :
    (ticker.arrivals records).filterMap Arrival.record? = records := by
  have ticks (count : Nat) :
      (List.replicate count Arrival.tick).filterMap Arrival.record? = [] := by
    simp [List.filterMap_replicate, Arrival.record?]
  induction records generalizing ticker with
  | nil => exact ticks _
  | cons record records ih =>
    rw [arrivals, List.filterMap_append, ticks, Arrival.records_cons, ih]
    rfl

theorem arrivals_append (ticker : Ticker) (front : List Record) :
    ∃ behind : Ticker, ∀ record records, ticker.arrivals (front ++ record :: records) =
      ticker.arrivals front ++ .record record :: behind.arrivals records := by
  induction front generalizing ticker with
  | nil => exact ⟨ticker.next, fun _ _ => rfl⟩
  | cons first front ih =>
    obtain ⟨behind, goesOn⟩ := ih ticker.next
    refine ⟨behind, fun record records => ?_⟩
    rw [List.cons_append, arrivals, goesOn, arrivals, List.append_assoc, List.cons_append]

theorem arrivals_prefix (ticker : Ticker) {front records : List Record}
    (isPrefix : front <+: records) : ticker.arrivals front <+: ticker.arrivals records := by
  obtain ⟨rest, rfl⟩ := isPrefix
  cases rest with
  | nil => simp
  | cons record rest =>
    obtain ⟨behind, goesOn⟩ := ticker.arrivals_append front
    exact ⟨_, (goesOn record rest).symm⟩

end Ticker

namespace Sink

variable {σ ε : Type}

def meet (sink : Sink σ ε) (state : σ) : Arrival → σ × Except ε Bool
  | .record record => sink.consume state record
  | .tick => ((sink.update state).1, (sink.update state).2.map fun _ => true)

/-- The records that are handed to the sink, the one at which it stops included. -/
def taken (sink : Sink σ ε) (state : σ) : List Arrival → List Record
  | [] => []
  | arrival :: arrivals =>
    if sink.wantsMore state then
      arrival.record?.toList ++
        match sink.meet state arrival with
        | (state, .ok true) => sink.taken state arrivals
        | _ => []
    else []

def after (sink : Sink σ ε) (state : σ) (arrivals : List Arrival) : σ :=
  arrivals.foldl (fun state arrival => (sink.meet state arrival).1) state

/-- Has the sink gone on at each of these arrivals, and does it want more? -/
def lasts (sink : Sink σ ε) (state : σ) : List Arrival → Bool
  | [] => sink.wantsMore state
  | arrival :: arrivals =>
    sink.wantsMore state && match sink.meet state arrival with
      | (state, .ok true) => sink.lasts state arrivals
      | _ => false

/-- Does the sink take whatever it is offered, if its ticker stands like this? -/
def TakesEvery (sink : Sink σ ε) (state : σ) (ticker : Ticker) : Prop :=
  ∀ records, sink.taken state (ticker.arrivals records) = records

variable {sink : Sink σ ε} {state next : σ} {arrival : Arrival}

theorem meet_consume {record : Record} {answer : Except ε Bool}
    (consumes : sink.consume state record = (next, answer)) :
    sink.meet state (.record record) = (next, answer) := consumes

theorem meet_update (updates : sink.update state = (next, .ok ())) :
    sink.meet state .tick = (next, .ok true) := by
  rw [meet, updates]
  rfl

theorem meet_updateFails {e : ε} (fails : sink.update state = (next, .error e)) :
    sink.meet state .tick = (next, .error e) := by
  rw [meet, fails]
  rfl

theorem taken_unwanted (unwanted : sink.wantsMore state = false) (arrivals : List Arrival) :
    sink.taken state arrivals = [] := by
  cases arrivals with
  | nil => rfl
  | cons arrival arrivals => simp [taken, unwanted]

theorem taken_more (wants : sink.wantsMore state = true)
    (goesOn : sink.meet state arrival = (next, .ok true)) (arrivals : List Arrival) :
    sink.taken state (arrival :: arrivals) =
      arrival.record?.toList ++ sink.taken next arrivals := by
  rw [taken, if_pos wants, goesOn]

theorem taken_last (wants : sink.wantsMore state = true)
    (stops : (sink.meet state arrival).2 ≠ .ok true) (arrivals : List Arrival) :
    sink.taken state (arrival :: arrivals) = arrival.record?.toList := by
  rw [taken, if_pos wants]
  split
  · next answer => rw [answer] at stops; exact absurd rfl stops
  · exact List.append_nil _

/-- An arrival finds no demand, or the sink goes on behind it, or it is the last. -/
theorem offer_cases (sink : Sink σ ε) (state : σ) (arrival : Arrival) :
    sink.wantsMore state = false ∨
      (sink.wantsMore state = true ∧ ∃ next, sink.meet state arrival = (next, .ok true)) ∨
      (sink.wantsMore state = true ∧ (sink.meet state arrival).2 ≠ .ok true) := by
  cases wants : sink.wantsMore state with
  | false => exact .inl rfl
  | true =>
    by_cases goesOn : (sink.meet state arrival).2 = .ok true
    · exact .inr (.inl ⟨rfl, _, Prod.ext rfl goesOn⟩)
    · exact .inr (.inr ⟨rfl, goesOn⟩)

theorem after_append (sink : Sink σ ε) (state : σ) (front arrivals : List Arrival) :
    sink.after state (front ++ arrivals) = sink.after (sink.after state front) arrivals :=
  List.foldl_append

theorem after_cons (goesOn : (sink.meet state arrival).1 = next) (arrivals : List Arrival) :
    sink.after state (arrival :: arrivals) = sink.after next arrivals := by
  rw [after, List.foldl_cons, goesOn]
  rfl

/-! ### Where a sink ends -/

theorem lasts_cons {arrivals : List Arrival} :
    sink.lasts state (arrival :: arrivals) = true ↔ ∃ next, sink.wantsMore state = true ∧
      sink.meet state arrival = (next, .ok true) ∧ sink.lasts next arrivals = true := by
  rw [lasts, Bool.and_eq_true]
  split
  · next next goesOn => simp [goesOn]
  · next stops =>
    refine ⟨fun impossible => by simp at impossible, ?_⟩
    rintro ⟨next, _, goesOn, _⟩
    exact absurd goesOn (stops next)

theorem lasts_cons_of_meet {more : Bool} (meets : sink.meet state arrival = (next, .ok more))
    (arrivals : List Arrival) :
    sink.lasts state (arrival :: arrivals) = true ↔
      sink.wantsMore state = true ∧ more = true ∧ sink.lasts next arrivals = true := by
  rw [lasts, Bool.and_eq_true, meets]
  cases more <;> simp

theorem lasts_append {front arrivals : List Arrival} :
    sink.lasts state (front ++ arrivals) = true ↔
      sink.lasts state front = true ∧ sink.lasts (sink.after state front) arrivals = true := by
  induction front generalizing state with
  | nil =>
    refine ⟨fun lasts => ⟨?_, lasts⟩, fun lasts => lasts.2⟩
    cases arrivals with
    | nil => exact lasts
    | cons arrival arrivals =>
      obtain ⟨next, wants, _⟩ := lasts_cons.1 lasts
      exact wants
  | cons arrival front ih =>
    rw [List.cons_append, lasts_cons, lasts_cons]
    constructor
    · rintro ⟨next, wants, goesOn, lasts⟩
      rw [after_cons (congrArg Prod.fst goesOn)]
      exact ⟨⟨next, wants, goesOn, (ih.1 lasts).1⟩, (ih.1 lasts).2⟩
    · rintro ⟨⟨next, wants, goesOn, lasts⟩, further⟩
      rw [after_cons (congrArg Prod.fst goesOn)] at further
      exact ⟨next, wants, goesOn, ih.2 ⟨lasts, further⟩⟩

theorem wantsMore_of_lasts {arrivals : List Arrival} (lasts : sink.lasts state arrivals = true) :
    sink.wantsMore state = true := by
  rw [← List.nil_append arrivals, lasts_append] at lasts
  exact lasts.1

theorem taken_of_lasts {front : List Arrival} (lasts : sink.lasts state front = true)
    (arrivals : List Arrival) :
    sink.taken state (front ++ arrivals) =
      front.filterMap Arrival.record? ++ sink.taken (sink.after state front) arrivals := by
  induction front generalizing state with
  | nil => rfl
  | cons arrival front ih =>
    obtain ⟨next, wants, goesOn, lasts⟩ := lasts_cons.1 lasts
    rw [List.cons_append, taken_more wants goesOn, ih lasts, after_cons (congrArg Prod.fst goesOn),
      Arrival.records_cons, List.append_assoc]

theorem taken_of_ended {front : List Arrival} (ended : sink.lasts state front = false)
    (arrivals : List Arrival) : sink.taken state (front ++ arrivals) = sink.taken state front := by
  induction front generalizing state with
  | nil => exact (taken_unwanted ended arrivals).trans rfl
  | cons arrival front ih =>
    rw [List.cons_append]
    obtain unwanted | ⟨wants, next, goesOn⟩ | ⟨wants, stops⟩ := sink.offer_cases state arrival
    · rw [taken_unwanted unwanted, taken_unwanted unwanted]
    · have later : sink.lasts next front = false := by
        rw [lasts, wants, goesOn] at ended
        exact ended
      rw [taken_more wants goesOn, taken_more wants goesOn, ih later]
    · rw [taken_last wants stops, taken_last wants stops]

theorem taken_prefix (sink : Sink σ ε) (state : σ) (arrivals : List Arrival) :
    sink.taken state arrivals <+: arrivals.filterMap Arrival.record? := by
  induction arrivals generalizing state with
  | nil => exact List.nil_prefix
  | cons arrival arrivals ih =>
    rw [Arrival.records_cons]
    obtain unwanted | ⟨wants, next, goesOn⟩ | ⟨wants, stops⟩ := sink.offer_cases state arrival
    · rw [taken_unwanted unwanted]
      exact List.nil_prefix
    · rw [taken_more wants goesOn]
      exact (List.prefix_append_right_inj _).2 (ih next)
    · rw [taken_last wants stops]
      exact List.prefix_append _ _

theorem taken_arrivals_prefix (sink : Sink σ ε) (state : σ) (ticker : Ticker)
    (records : List Record) : sink.taken state (ticker.arrivals records) <+: records := by
  simpa using sink.taken_prefix state (ticker.arrivals records)

theorem lasts_of_prefix {front records : List Record} {ticker : Ticker}
    (isPrefix : front <+: records) (lasts : sink.lasts state (ticker.arrivals records) = true) :
    sink.lasts state (ticker.arrivals front) = true := by
  obtain ⟨rest, cut⟩ := ticker.arrivals_prefix isPrefix
  rw [← cut, lasts_append] at lasts
  exact lasts.1

/-- A sink that wants another record has been handed all that there are. -/
theorem taken_eq_self {records : List Record} {ticker : Ticker}
    (lasts : sink.lasts state
      (ticker.arrivals (sink.taken state (ticker.arrivals records))) = true) :
    sink.taken state (ticker.arrivals records) = records := by
  obtain ⟨rest, cut⟩ := sink.taken_arrivals_prefix state ticker records
  cases rest with
  | nil => exact (List.append_nil _).symm.trans cut
  | cons record rest =>
    -- it would have been handed the next one too
    obtain ⟨behind, goesOn⟩ := ticker.arrivals_append (sink.taken state (ticker.arrivals records))
    have further := taken_of_lasts lasts (.record record :: behind.arrivals rest)
    have wants : sink.wantsMore (sink.after state
        (ticker.arrivals (sink.taken state (ticker.arrivals records)))) = true := by
      rw [← List.append_nil (ticker.arrivals _), lasts_append] at lasts
      exact lasts.2
    rw [← goesOn, cut, Ticker.records_arrivals, taken, if_pos wants] at further
    simp [Arrival.record?] at further

/-- The sink lasts up to the last of the records that it is handed. -/
theorem lasts_of_taken {front rest records : List Record} {record : Record} {ticker : Ticker}
    (cut : sink.taken state (ticker.arrivals records) = front ++ record :: rest) :
    sink.lasts state (ticker.arrivals front) = true := by
  obtain ⟨more, among⟩ := sink.taken_arrivals_prefix state ticker records
  cases ended : sink.lasts state (ticker.arrivals front) with
  | true => rfl
  | false =>
    -- it would not have been handed the record behind `front`
    obtain ⟨behind, goesOn⟩ := ticker.arrivals_append front
    rw [cut, List.append_assoc, List.cons_append] at among
    rw [← among, goesOn, taken_of_ended ended] at cut
    have short := (sink.taken_arrivals_prefix state ticker front).length_le
    rw [cut, List.length_append, List.length_cons] at short
    omega

/-! ### Sinks that take every record -/

theorem runFrom_of_lasts {arrivals : List Arrival} (lasts : sink.lasts state arrivals = true)
    (taken : Nat) :
    sink.runFrom state taken arrivals =
      sink.close (sink.after state arrivals)
        (taken + (arrivals.filterMap Arrival.record?).length) := by
  induction arrivals generalizing state taken with
  | nil => rfl
  | cons arrival arrivals ih =>
    obtain ⟨next, wants, goesOn, further⟩ := lasts_cons.1 lasts
    rw [after_cons (congrArg Prod.fst goesOn)]
    cases arrival with
    | record record =>
      have consumes : sink.consume state record = (next, .ok true) := goesOn
      rw [runFrom.eq_def]
      simp only [wants, consumes, ih further, Arrival.records_cons, Arrival.record?,
        Option.toList_some, List.length_append, List.length_singleton, if_true]
      rw [Nat.add_assoc]
    | tick =>
      cases updates : sink.update state with | mk after answer
      rw [meet, updates] at goesOn
      cases answer <;> cases goesOn
      rw [runFrom.eq_def]
      simp only [wants, updates, ih further, if_true]
      rfl

theorem TakesEvery.lasts {ticker : Ticker} (takesEvery : sink.TakesEvery state ticker)
    (records : List Record) : sink.lasts state (ticker.arrivals records) = true :=
  lasts_of_taken (takesEvery (records ++ [{ line := "" }]))

theorem TakesEvery.run {ticker : Ticker} (takesEvery : sink.TakesEvery state ticker)
    (records : List Record) :
    sink.run state (ticker.arrivals records) =
      sink.close (sink.after state (ticker.arrivals records)) records.length := by
  rw [Sink.run, runFrom_of_lasts (takesEvery.lasts records), Nat.zero_add,
    Ticker.records_arrivals]

/-! ### On the way -/

/-- Do these arrivals, with these records among them, bring the sink from `origin` to `state`, and
its ticker from `ticker` to `behind`? -/
structure Meets (sink : Sink σ ε) (origin : σ) (ticker : Ticker) (met : List Arrival)
    (records : List Record) (state : σ) (behind : Ticker) : Prop where
  state : state = sink.after origin met
  ahead : ∀ further, ticker.arrivals (records ++ further) = met ++ behind.arrivals further

namespace Meets

variable {origin : σ} {ticker behind : Ticker} {met : List Arrival} {records : List Record}

theorem nil : sink.Meets origin ticker [] [] origin ticker := ⟨rfl, fun _ => rfl⟩

theorem tick (meets : sink.Meets origin ticker met records state behind) {after : Ticker}
    (ticks : behind.tick? = some after) (updates : sink.update state = (next, .ok ())) :
    sink.Meets origin ticker (met ++ [.tick]) records next after where
  state := by
    rw [sink.after_append, ← meets.state, after_cons (congrArg Prod.fst (meet_update updates))]
    rfl
  ahead further := by
    rw [meets.ahead, Ticker.arrivals_tick ticks, List.append_assoc]
    rfl

theorem record (meets : sink.Meets origin ticker met records state behind)
    (waits : behind.tick? = none) {record : Record} {answer : Except ε Bool}
    (consumes : sink.consume state record = (next, answer)) :
    sink.Meets origin ticker (met ++ [.record record]) (records ++ [record]) next behind.next where
  state := by
    rw [sink.after_append, ← meets.state, after_cons (congrArg Prod.fst (meet_consume consumes))]
    rfl
  ahead further := by
    rw [List.append_assoc, List.singleton_append, meets.ahead, Ticker.arrivals_record waits,
      List.append_assoc, List.singleton_append]

theorem met_prefix (meets : sink.Meets origin ticker met records state behind) :
    met <+: ticker.arrivals records := by
  have cut := meets.ahead []
  rw [List.append_nil] at cut
  exact ⟨_, cut.symm⟩

theorem records_met (meets : sink.Meets origin ticker met records state behind) :
    met.filterMap Arrival.record? = records := by
  have cut := congrArg (List.filterMap Arrival.record?) (meets.ahead [])
  rw [List.filterMap_append, Ticker.records_arrivals, Ticker.records_arrivals, List.append_nil,
    List.append_nil] at cut
  exact cut.symm

theorem met_eq (meets : sink.Meets origin ticker met records state behind)
    (waits : behind.tick? = none) : met = ticker.arrivals records := by
  have cut := meets.ahead []
  rw [Ticker.arrivals_nil waits, List.append_nil, List.append_nil] at cut
  exact cut.symm

theorem lasts (meets : sink.Meets origin ticker met records state behind)
    (takesEvery : sink.TakesEvery origin ticker) (further : List Record) :
    sink.lasts state (behind.arrivals further) = true := by
  have all := takesEvery.lasts (records ++ further)
  rw [meets.ahead, lasts_append, ← meets.state] at all
  exact all.2

end Meets

end Sink

namespace Collector

variable {collector : Collector}

def keep (collector : Collector) (record : Record) : Collector :=
  { collector with offered := collector.offered + 1, kept := collector.kept.push record }

theorem meet_greedy (greedy : collector.stopAfter = none) (sturdy : collector.failAt = none)
    (record : Record) : sink.meet collector (.record record) = (collector.keep record, .ok true) := by
  simp [Sink.meet, sink, consume, wantsMore, keep, greedy, sturdy]

theorem takesEvery (greedy : collector.stopAfter = none) (sturdy : collector.failAt = none)
    (ticker : Ticker) : sink.TakesEvery collector ticker := by
  suffices ∀ arrivals, sink.taken collector arrivals = arrivals.filterMap Arrival.record? by
    intro records
    rw [this, Ticker.records_arrivals]
  intro arrivals
  induction arrivals generalizing collector with
  | nil => rfl
  | cons arrival arrivals ih =>
    have wants : sink.wantsMore collector = true := by simp [sink, wantsMore, greedy]
    cases arrival with
    | record record =>
      rw [Sink.taken_more wants (meet_greedy greedy sturdy record)]
      exact congrArg (record :: ·) (ih greedy sturdy)
    | tick =>
      rw [Sink.taken_more wants (Sink.meet_update rfl)]
      exact ih greedy sturdy

theorem kept_after (greedy : collector.stopAfter = none) (sturdy : collector.failAt = none)
    (arrivals : List Arrival) :
    (sink.after collector arrivals).kept.toList =
      collector.kept.toList ++ arrivals.filterMap Arrival.record? := by
  induction arrivals generalizing collector with
  | nil => simp [Sink.after]
  | cons arrival arrivals ih =>
    cases arrival with
    | record record =>
      have later := @ih (collector.keep record) greedy sturdy
      rw [Sink.after_cons (congrArg Prod.fst (meet_greedy greedy sturdy record)), later, keep]
      simp [Arrival.record?]
    | tick =>
      rw [Sink.after_cons rfl]
      exact ih greedy sturdy

/-- A collector lasts up to its limit. -/
theorem lasts_iff {limit : Nat} (limited : collector.stopAfter = some limit)
    (sturdy : collector.failAt = none) (arrivals : List Arrival) :
    sink.lasts collector arrivals = true ↔
      collector.kept.size + (arrivals.filterMap Arrival.record?).length < limit := by
  have wants (c : Collector) (limited : c.stopAfter = some limit) :
      sink.wantsMore c = true ↔ c.kept.size < limit := by
    simp [sink, wantsMore, limited]
  induction arrivals generalizing collector with
  | nil => exact wants collector limited
  | cons arrival arrivals ih =>
    rw [Arrival.records_cons, List.length_append]
    cases arrival with
    | record record =>
      have answers : sink.meet collector (.record record) =
          (collector.keep record, .ok (sink.wantsMore (collector.keep record))) := by
        simp [Sink.meet, sink, consume, sturdy, keep]
      have size : (collector.keep record).kept.size = collector.kept.size + 1 := by simp [keep]
      have later : sink.lasts (collector.keep record) arrivals = true ↔ _ := ih limited sturdy
      rw [Sink.lasts_cons_of_meet answers, wants collector limited,
        wants (collector.keep record) limited, later, size]
      change _ ↔ _ + (1 + _) < limit
      omega
    | tick =>
      have later : sink.lasts collector arrivals = true ↔ _ := ih limited sturdy
      rw [Sink.lasts_cons_of_meet (Sink.meet_update rfl), wants collector limited, later, eq_self,
        true_and]
      change _ ↔ _ + (0 + _) < limit
      omega

end Collector

end LogQuery

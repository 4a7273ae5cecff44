import LogQuery.Proofs.Pipeline.Network.Progress
import LogQuery.Proofs.Pipeline.Network.Termination
import Mathlib.Data.ENat.Lattice
import Mathlib.Order.CompletePartialOrder

/-! Sinks that end early, and sources that never do.

What the stages make of a source may have no end. It is told by its front parts, of which of any two
one is the front of the other. A sink is handed the first of these records, up to the one at which
it ends; then intake, which sees that before each line, reads at most one line more.
-/

set_option autoImplicit false

namespace LogQuery

namespace Pipeline

namespace Stage

theorem run_append (stage : Stage) (first second : List Record) :
    stage.run first <+: stage.run (first ++ second) := by
  induction first generalizing stage with
  | nil => exact List.nil_prefix
  | cons record first ih =>
    rw [List.cons_append, run_cons, run_cons]
    exact (List.prefix_append_right_inj _).2 (ih _)

end Stage

theorem results_mono (stages : List Stage) {front records : List Record}
    (isPrefix : front <+: records) : results stages front <+: results stages records := by
  induction stages generalizing front records with
  | nil => exact isPrefix
  | cons stage stages ih =>
    obtain ⟨rest, rfl⟩ := isPrefix
    rw [results_cons, results_cons]
    exact ih (stage.run_append front rest)

namespace Network

variable {ι σ ε : Type}

section Output

variable {next? : ι → Option (String × ι)} {stages : List Stage} {origin : ι}

theorem ReadsTo.total {lines lines' : List String} {middle after after' : ι}
    (reads : ReadsTo next? middle lines after) (reads' : ReadsTo next? middle lines' after') :
    (∃ more, lines' = lines ++ more ∧ ReadsTo next? after more after') ∨
      ∃ more, lines = lines' ++ more ∧ ReadsTo next? after' more after := by
  induction lines generalizing middle lines' with
  | nil =>
    cases reads
    exact .inl ⟨lines', rfl, reads'⟩
  | cons line lines ih =>
    cases lines' with
    | nil =>
      cases reads'
      exact .inr ⟨line :: lines, rfl, reads⟩
    | cons line' lines' =>
      obtain ⟨behind, step, reads⟩ := reads
      obtain ⟨behind', step', reads'⟩ := reads'
      rw [step] at step'
      cases step'
      rcases ih reads reads' with ⟨more, rfl, further⟩ | ⟨more, rfl, further⟩
      · exact .inl ⟨more, rfl, further⟩
      · exact .inr ⟨more, rfl, further⟩

/-- Is `front` the first part of what the stages make, one after the other, of the lines of a
source, which may go on without end? -/
def IsFront (next? : ι → Option (String × ι)) (stages : List Stage) (origin : ι)
    (front : List Record) : Prop :=
  ∃ lines after, ReadsTo next? origin lines after ∧
    front <+: results stages (lines.map fun line => { line })

noncomputable def outputLength (next? : ι → Option (String × ι)) (stages : List Stage)
    (origin : ι) : ℕ∞ :=
  ⨆ (front) (_ : IsFront next? stages origin front), (front.length : ℕ∞)

theorem IsFront.of_prefix {front back : List Record} (isFront : IsFront next? stages origin back)
    (isPrefix : front <+: back) : IsFront next? stages origin front := by
  obtain ⟨lines, after, reads, among⟩ := isFront
  exact ⟨lines, after, reads, isPrefix.trans among⟩

theorem IsFront.total {front front' : List Record} (isFront : IsFront next? stages origin front)
    (isFront' : IsFront next? stages origin front') : front <+: front' ∨ front' <+: front := by
  obtain ⟨lines, after, reads, among⟩ := isFront
  obtain ⟨lines', after', reads', among'⟩ := isFront'
  rcases reads.total reads' with ⟨more, rfl, _⟩ | ⟨more, rfl, _⟩
  · rw [List.map_append] at among'
    exact List.prefix_or_prefix_of_prefix
      (among.trans (results_mono stages (List.prefix_append _ _))) among'
  · rw [List.map_append] at among
    exact List.prefix_or_prefix_of_prefix among
      (among'.trans (results_mono stages (List.prefix_append _ _)))

theorem isFront_iff {lines : List String} (yields : Yields next? origin lines)
    (front : List Record) :
    IsFront next? stages origin front ↔
      front <+: results stages (lines.map fun line => { line }) := by
  constructor
  · rintro ⟨lines', after, reads, among⟩
    obtain ⟨rest, rfl, _⟩ := yields.behind reads
    rw [List.map_append]
    exact among.trans (results_mono stages (List.prefix_append _ _))
  · intro among
    obtain ⟨after, reads⟩ := yields.readsTo
    exact ⟨lines, after, reads, among⟩

theorem outputLength_of_yields {lines : List String} (yields : Yields next? origin lines) :
    outputLength next? stages origin = (results stages (lines.map fun line => { line })).length := by
  apply le_antisymm
  · refine iSup₂_le fun front isFront => ?_
    rw [Nat.cast_le]
    exact ((isFront_iff yields front).1 isFront).length_le
  · exact le_iSup₂_of_le _ ((isFront_iff yields _).2 (List.prefix_refl _)) le_rfl

end Output

/-- Does the sink end at record number `k` of an output that is told by its front parts: when it has
been handed so many records, and not before? It never does if `k` is infinite. -/
def EndsAt (sink : Sink σ ε) (state : σ) (ticker : Ticker) (isFront : List Record → Prop)
    (k : ℕ∞) : Prop :=
  ∀ front, isFront front →
    (sink.lasts state (ticker.arrivals front) = true ↔ (front.length : ℕ∞) < k)

theorem exists_endsAt (sink : Sink σ ε) (state : σ) (ticker : Ticker)
    (next? : ι → Option (String × ι)) (stages : List Stage) (origin : ι) :
    ∃ k, EndsAt sink state ticker (IsFront next? stages origin) k := by
  let ends (n : Nat) : Prop := ∃ front, IsFront next? stages origin front ∧
    front.length = n ∧ sink.lasts state (ticker.arrivals front) = false
  by_cases never : ∃ n, ends n
  · classical
    obtain ⟨last, isLast, length, stopped⟩ := Nat.find_spec never
    refine ⟨(Nat.find never : ℕ∞), fun front isFront => ?_⟩
    rw [Nat.cast_lt]
    constructor
    · intro lasts
      by_contra beyond
      -- the front behind which the sink ends would be a part of one behind which it lasts
      have isPrefix : last <+: front := by
        rcases isLast.total isFront with isPrefix | isPrefix
        · exact isPrefix
        · rw [isPrefix.eq_of_length_le (by omega)]
      rw [Sink.lasts_of_prefix isPrefix lasts] at stopped
      cases stopped
    · intro before
      by_contra stopped
      exact Nat.find_min never before ⟨front, isFront, rfl, Bool.eq_false_iff.2 stopped⟩
  · refine ⟨⊤, fun front isFront => ⟨fun _ => ENat.natCast_lt_top _, fun _ => ?_⟩⟩
    by_contra stopped
    exact never ⟨front.length, front, isFront, rfl, Bool.eq_false_iff.2 stopped⟩

variable {setup : Setup ι σ ε} {stages : List Stage} {origin : ι} {state : σ}
  {ticker : Ticker} {network : Network ι σ ε}

/-! ### What the sink is handed -/

/-- When the consumer has ended, what it was handed is what the sink takes of what has been read,
and of whatever else might be read. -/
theorem Follows.handed (follows : Follows setup stages origin state ticker network)
    (ended : network.downstream.last.hasEnded = true) :
    ∃ lines, ReadsTo setup.next? origin lines network.intake.source ∧
      ∀ further after, ReadsTo setup.next? network.intake.source further after →
        network.downstream.last.consumed = setup.sink.taken state
          (ticker.arrivals (results stages ((lines ++ further).map fun line => { line }))) := by
  obtain ⟨-, lines, reads, outlook⟩ := follows
  refine ⟨lines, reads, fun further after readsOn => ?_⟩
  rw [← outlook further after readsOn, Downstream.outlook_ended ended]

theorem Follows.isFront (follows : Follows setup stages origin state ticker network)
    (ended : network.downstream.last.hasEnded = true) :
    IsFront setup.next? stages origin network.downstream.last.consumed := by
  obtain ⟨lines, reads, handed⟩ := follows.handed ended
  have consumed := handed [] _ rfl
  rw [List.append_nil] at consumed
  rw [consumed]
  exact ⟨lines, _, reads, Sink.taken_arrivals_prefix ..⟩

theorem Follows.length_of_lasts (follows : Follows setup stages origin state ticker network)
    (ended : network.downstream.last.hasEnded = true)
    (lasts : setup.sink.lasts state (ticker.arrivals network.downstream.last.consumed) = true) :
    (network.downstream.last.consumed.length : ℕ∞) = outputLength setup.next? stages origin := by
  obtain ⟨lines, reads, handed⟩ := follows.handed ended
  -- nothing more comes of the lines behind those that were read
  have all (further : List String) (after : ι)
      (readsOn : ReadsTo setup.next? network.intake.source further after) :
      network.downstream.last.consumed =
        results stages ((lines ++ further).map fun line => { line }) := by
    have consumed := handed further after readsOn
    rw [consumed] at lasts ⊢
    exact Sink.taken_eq_self lasts
  refine le_antisymm (le_iSup₂_of_le _ (follows.isFront ended) le_rfl) (iSup₂_le ?_)
  rintro front ⟨lines', after, reads', among⟩
  rw [Nat.cast_le]
  apply List.IsPrefix.length_le
  rcases reads.total reads' with ⟨further, rfl, readsOn⟩ | ⟨further, rfl, _⟩
  · rw [all further after readsOn]
    exact among
  · rw [all [] _ rfl, List.append_nil, List.map_append]
    exact among.trans (results_mono stages (List.prefix_append _ _))

theorem Follows.length_consumed (follows : Follows setup stages origin state ticker network)
    (ended : network.downstream.last.hasEnded = true) {k : ℕ∞}
    (endsAt : EndsAt setup.sink state ticker (IsFront setup.next? stages origin) k) :
    (network.downstream.last.consumed.length : ℕ∞) =
      min k (outputLength setup.next? stages origin) := by
  have isFront := follows.isFront ended
  cases lasts : setup.sink.lasts state (ticker.arrivals network.downstream.last.consumed) with
  | true =>
    have early := (endsAt _ isFront).1 lasts
    rw [follows.length_of_lasts ended lasts] at early ⊢
    exact (min_eq_right early.le).symm
  | false =>
    have late : k ≤ network.downstream.last.consumed.length := by
      rw [← not_lt, ← endsAt _ isFront, lasts]
      exact Bool.false_ne_true
    -- it had not ended before the last record that it was handed
    have exact : (network.downstream.last.consumed.length : ℕ∞) ≤ k := by
      obtain ⟨lines, _, handed⟩ := follows.handed ended
      have taken := handed [] _ rfl
      rcases List.eq_nil_or_concat network.downstream.last.consumed with none | ⟨front, record, cut⟩
      · rw [none]
        exact zero_le
      · rw [List.concat_eq_append] at cut
        have before := (endsAt front (isFront.of_prefix (cut ▸ List.prefix_append _ _))).1
          (Sink.lasts_of_taken (taken.symm.trans cut))
        rw [cut, List.length_append, Nat.cast_add]
        exact Order.add_one_le_of_lt before
    have upTo : (network.downstream.last.consumed.length : ℕ∞) ≤
        outputLength setup.next? stages origin := le_iSup₂_of_le _ isFront le_rfl
    rw [le_antisymm exact late] at upTo ⊢
    exact (min_eq_left upTo).symm

/-! ### Behind the end of the sink -/

theorem Consumer.Step.atWork {sink : Sink σ ε} {c after : Consumer σ ε} (step : c.Step sink after) :
    c.hasEnded = false := by
  cases step with
  | updates phase | failsToUpdate phase | takes phase | takesLast phase | fails phase
  | isDone phase | isStarved phase | finishes phase | ends phase => simp [hasEnded, phase]

namespace Downstream

theorem hasEnded_put (record : Record) (downstream : Downstream σ ε) :
    (downstream.put record).last.hasEnded = downstream.last.hasEnded := by
  cases downstream <;> rfl

theorem hasEnded_close (downstream : Downstream σ ε) :
    downstream.close.last.hasEnded = downstream.last.hasEnded := by
  cases downstream <;> rfl

theorem Step.hasEnded {capacity : Nat} {sink : Sink σ ε} {before after : Downstream σ ε}
    (step : before.Step capacity sink after) (ended : before.last.hasEnded = true) :
    after.last.hasEnded = true := by
  induction step with
  | consumer step =>
    have atWork := step.atWork
    rw [Downstream.last, atWork] at ended
    cases ended
  | worker step =>
    cases step with
    | sends => exact (hasEnded_put ..).trans ended
    | isRefused | isStarved => exact (hasEnded_close _).trans ended
    | receives => exact ended
  | behind step ih => exact ih ended

end Downstream

/-- The lines that intake may still read when the consumer has ended. -/
def Intake.toRead (intake : Intake ι) : Nat :=
  match intake.phase with
  | .reading => 1
  | _ => 0

/-- When the consumer has ended, intake reads a line only if it was about to, and each step brings
the network nearer to its end. -/
theorem Step.told {before after : Network ι σ ε} (step : before.Step setup after)
    (ended : before.downstream.last.hasEnded = true) :
    after.downstream.last.hasEnded = true ∧
      after.intake.linesRead + after.intake.toRead ≤
        before.intake.linesRead + before.intake.toRead ∧
      after.IsNearer after.intake.toRead before before.intake.toRead := by
  cases step with
  | downstream step =>
    exact ⟨step.hasEnded ended, Nat.le_refl _, isNearer_of_downstream step.isNearer _⟩
  | intake step =>
    cases step with
    -- intake would see that the consumer has ended
    | checks phase untold =>
      rw [ended] at untold
      cases untold
    | isTold phase | isStarved phase | isRefused phase =>
      refine ⟨(Downstream.hasEnded_close _).trans ended, ?_, .inl ?_⟩
      · simp [Intake.finish, Intake.toRead]
      · simp only [Network.weight, Intake.finish, Downstream.weight_close, Intake.toRead, phase]
        omega
    | reads phase next =>
      refine ⟨ended, ?_, .inl ?_⟩
      · simp [Intake.toRead, phase]
      · simp only [Network.weight, Intake.toRead, phase]
        omega
    | sends phase =>
      refine ⟨(Downstream.hasEnded_put ..).trans ended, ?_, .inl ?_⟩
      · simp [Intake.toRead, phase]
      · simp only [Network.weight, Downstream.recordCost_put, Downstream.weight_put, Intake.toRead,
          phase]
        omega

theorem terminates_of_ended {network : Network ι σ ε}
    (ended : network.downstream.last.hasEnded = true) : network.Terminates setup := by
  constructor
  intro after step
  obtain ⟨endedAfter, _, nearer⟩ := (step_of_mem step).told ended
  exact terminates_of_ended endedAfter
termination_by (network.weight network.intake.toRead, network.downstream.last.ticker 0)
decreasing_by exact Prod.lex_def.2 nearer

theorem linesRead_of_ended (ended : network.downstream.last.hasEnded = true)
    {later : Network ι σ ε} (reaches : Reaches setup network later) :
    later.intake.linesRead ≤ network.intake.linesRead + 1 := by
  have bound : later.downstream.last.hasEnded = true ∧
      later.intake.linesRead + later.intake.toRead ≤
        network.intake.linesRead + network.intake.toRead := by
    induction reaches with
    | refl => exact ⟨ended, Nat.le_refl _⟩
    | step _ step ih =>
      obtain ⟨endedAfter, fewer, _⟩ := (step_of_mem step).told ih.1
      exact ⟨endedAfter, Nat.le_trans fewer ih.2⟩
  have atMostOne : network.intake.toRead ≤ 1 := by
    rw [Intake.toRead]
    split <;> omega
  omega

/-- Whether and where the sink ends, by itself or by a failure, and whether or not the source has an
end: no process waits in vain; in the end the sink has been handed the first records of the output,
up to the one at which it ends; and once intake can see that the consumer has ended, it reads one
more line at most, and every run comes to an end. The output of a source that has an end is what the
stages make of its lines. -/
theorem stops (setup : Setup ι σ ε) (stages : List Stage) (origin : ι) (state : σ)
    (ticker : Ticker) :
    let isFront := IsFront setup.next? stages origin
    let length := outputLength setup.next? stages origin
    (∃ k, EndsAt setup.sink state ticker isFront k) ∧
      (∀ lines, Yields setup.next? origin lines →
        let output := results stages (lines.map fun line => { line })
        (∀ front, isFront front ↔ front <+: output) ∧ length = output.length) ∧
      ∀ network, Reaches setup (ofStages stages origin state ticker) network →
        (network.steps setup = [] → network.isFinished = true) ∧
          (network.isFinished = true →
            isFront network.downstream.last.consumed ∧
              ∀ k, EndsAt setup.sink state ticker isFront k →
                (network.downstream.last.consumed.length : ℕ∞) = min k length) ∧
          (network.downstream.last.hasEnded = true →
            network.Terminates setup ∧
              ∀ later, Reaches setup network later →
                later.intake.linesRead ≤ network.intake.linesRead + 1) := by
  intro isFront length
  refine ⟨exists_endsAt .., fun lines yields => ⟨isFront_iff yields, outputLength_of_yields yields⟩,
    fun network reaches => ?_⟩
  have follows := follows_of_reaches reaches
  refine ⟨follows.finished, fun finished => ?_, fun ended => ?_⟩
  · rw [isFinished, Bool.and_eq_true] at finished
    exact ⟨follows.isFront finished.2, fun k endsAt => follows.length_consumed finished.2 endsAt⟩
  · exact ⟨terminates_of_ended ended, fun later => linesRead_of_ended ended⟩

/-- Of lines without end one passes the filter, and the sink wants no other. When it ends, intake is
about to read its third line, which is the last one that it reads. -/
theorem stops_endless :
    let setup : Setup Nat Collector Failure :=
      ⟨1, by decide, fun n => some (if n == 1 then "b" else "a", n + 1), Collector.sink⟩
    let stages := [Stage.columns, .holding (.relation .equal (.column 1) (.literal "b") none)]
    let told := (ofStages stages 0 { stopAfter := some 1 } .never).follow setup
      [0, 0, 0, 1, 1, 1, 0, 0, 0, 0, 1, 1, 1, 1, 1, 1, 1]
    let last := told.follow setup (List.replicate 9 0)
    told.intake.linesRead = 2 ∧ told.Terminates setup ∧ last.intake.linesRead ≤ 3 ∧
      last.isFinished = true ∧ (last.downstream.last.consumed.length : ℕ∞) =
        min 1 (outputLength setup.next? stages 0) := by
  intro setup stages told last
  obtain ⟨read, ended, finished⟩ : told.intake.linesRead = 2 ∧
      told.downstream.last.hasEnded = true ∧ last.isFinished = true := by decide +kernel
  obtain ⟨-, -, every⟩ := stops setup stages 0 { stopAfter := some 1 } .never
  obtain ⟨-, -, behind⟩ := every told (reaches_follow ..)
  obtain ⟨terminates, bound⟩ := behind ended
  have onwards : Reaches setup told last := reaches_follow ..
  obtain ⟨-, inTheEnd, -⟩ := every last ((reaches_follow ..).trans onwards)
  have afterOne : EndsAt Collector.sink { stopAfter := some 1 } .never
      (IsFront setup.next? stages 0) 1 := by
    intro front _
    rw [Collector.lasts_iff rfl rfl, Ticker.records_arrivals]
    simp
  refine ⟨read, terminates, ?_, finished, (inTheEnd finished).2 1 afterOne⟩
  have bound := bound last onwards
  rwa [read] at bound

end Network

end Pipeline

end LogQuery

import LogQuery.Proofs.Pipeline.Waiting

/-! What a query finds in a stream that fails.

The failure cuts off a line, which is lost; every complete line before it counts. The failure is
told of unless a late line came before it, behind which nothing is looked for. -/

set_option autoImplicit false

namespace LogQuery.Pipeline.Query

open ByteStream
open SeekingReader (secondDay inUtc ofStream isFresh_ofStream standing_start unread_ofStream ending_ofStream
  ending_start ending_flow tellEnd_of_late tellEnd_of_timely isLate hasReached
  Standing HasEnded)

variable {query : Query} {stream : ByteStream} {σ ε : Type}

theorem filter_complete {skipped served rest : List (List UInt8)}
    (ordered : ((skipped ++ (served ++ rest)).filterMap query.recognizer.ofBytes).Pairwise (· ≤ ·))
    (early : ∀ line ∈ skipped, hasReached query.recognizer.ofBytes query.window.start line = false)
    (late : rest.filter isEnded = [] ∨ ∃ line lines, rest.filter isEnded = line :: lines ∧
      isLate query.recognizer.ofBytes query.window.finish line = true) :
    (recordsOf query.recognizer (texts ((skipped ++ (served ++ rest)).filter isEnded))).filter
        query.admits =
      (recordsOf query.recognizer (texts (served.filter isEnded))).filter query.admits := by
  have fewer := (List.filter_sublist (p := isEnded) (l := skipped ++ (served ++ rest))).filterMap
    query.recognizer.ofBytes
  rw [List.filter_append, List.filter_append] at fewer ⊢
  exact filter_served (ordered.sublist fewer)
    (fun line member => early line (List.mem_of_mem_filter member)) late

theorem fullScan_wholePart (query : Query) (bytes : List UInt8) :
    query.fullScan (wholePart bytes) =
      ((recordsOf query.recognizer (texts ((segments bytes).filter isEnded))).filter
        query.admits).map fun record =>
          { record with columns := query.selection.project record.columns } := by
  simp only [fullScan, lines_eq_texts, segments_wholePart]

theorem intake_served (query : Query) (stream : ByteStream) :
    ∃ given reader,
      Standing (ofStream stream query.window query.recognizer.ofBytes query.blockSize) given reader ∧
        HasEnded reader ∧ reader.ending = stream.readAll.2 ∧
        (query.intake stream).failure = reader.tellEnd.1 ∧
        (query.intake stream).lines =
          (LineReader.linesUntil given reader.tellEnd.1).map lineText := by
  have fresh := isFresh_ofStream stream query.window query.recognizer.ofBytes query.blockSize
  obtain ⟨standing, ended⟩ := (standing_start fresh).1.flow
  obtain ⟨lines, failure, -⟩ := query.intake_flow stream
  refine ⟨_, _, standing, ended, ?_, failure, lines⟩
  rw [ending_flow, ending_start fresh, ending_ofStream]

theorem linesUntil_failure (bytes : List UInt8) (cause : Failure) :
    (LineReader.linesUntil bytes (some cause)).map lineText =
      texts ((segments bytes).filter isEnded) := by
  rw [LineReader.linesUntil, splitLines_eq, List.map_map]
  rfl

/-- Only the last line may lack its newline, so the first of some lines is the first complete one,
or there is none. -/
theorem filter_isEnded_behind {bytes : List UInt8} {front further : List (List UInt8)}
    {line : List UInt8} (cut : segments bytes = front ++ line :: further) :
    (line :: further).filter isEnded = [] ∨
      (line :: further).filter isEnded = line :: further.filter isEnded := by
  cases ended : isEnded line with
  | true => exact .inr (List.filter_cons_of_pos ended)
  | false =>
    left
    have last : further = [] := by
      rcases ended_or_last (segments_cut cut).2.1 with newline_last | last
      · simp [isEnded, newline_last] at ended
      · exact last
    rw [last]
    simp [ended]

/-- Of lines in the order of their dates that a failure cuts off, the stages let through what the
query finds in the complete ones; the failure is told if there is no late line. -/
theorem found_failing {cause : Failure} (failing : stream.readAll.2 = some cause)
    (ordered : (dates query.recognizer.ofBytes stream.readAll.1).Pairwise (· ≤ ·))
    (forwards : query.window.start ≤ query.window.finish) :
    query.found stream = query.fullScan (wholePart stream.readAll.1) ∧
      (query.intake stream).failure =
        if (dates query.recognizer.ofBytes stream.readAll.1).any (query.window.finish < ·) then none
        else some cause := by
  obtain ⟨given, reader, standing, ended, ending, failure, lines⟩ := query.intake_served stream
  have covers := standing.covers ended
    ⟨query.recognizer.ignoresNewline, by rw [unread_ofStream]; exact ordered⟩
  have lateFound := covers.lateFound_eq forwards query.recognizer.ignoresNewline
  obtain ⟨rest, cut, next⟩ := covers.lines
  rw [unread_ofStream] at cut lateFound
  rw [failing] at ending
  have told : reader.tellEnd.1 = if reader.lateFound then none else some cause := by
    cases late : reader.lateFound with
    | true => exact tellEnd_of_late late
    | false => exact (tellEnd_of_timely ended late).trans ending
  have complete : (query.intake stream).lines = texts ((segments given).filter isEnded) := by
    rw [lines, told]
    cases late : reader.lateFound with
    | true =>
      -- what is served stands in front of the late line, so none of it lacks its newline
      rcases next with ⟨_, line, further, rfl, _⟩ | ⟨none_late, _⟩
      · have whole := isEnded_of_behind (List.append_assoc .. ▸ cut) (List.cons_ne_nil line further)
        rw [List.filter_eq_self.2 fun line member => whole line (List.mem_append_right _ member)]
        exact lines_eq_texts given
      · rw [late] at none_late
        cases none_late
    | false => exact linesUntil_failure given cause
  constructor
  · rw [found, results_stages, complete, fullScan_wholePart, cut, filter_complete]
    · rw [← cut, filterMap_segments]
      exact ordered
    · exact covers.early
    · rcases next with ⟨_, line, further, rfl, isLate, _⟩ | ⟨_, rfl⟩
      · exact (filter_isEnded_behind (List.append_assoc .. ▸ cut)).imp_right
          fun first => ⟨line, _, first, isLate⟩
      · exact .inl rfl
  · rw [failure, told, lateFound]
    rfl

/-- In a stream that fails behind lines in the order of their dates, what is found is what a look at
each of its complete lines finds. That it failed is told unless a line is dated after the window.
The same comes of processes side by side, in whatever order they run; they always come to an end. -/
theorem finds_wholePart (query : Query) {cause : Failure}
    (failing : stream.readAll.2 = some cause)
    (ordered : (dates query.recognizer.ofBytes stream.readAll.1).Pairwise (· ≤ ·))
    (forwards : query.window.start ≤ query.window.finish) {sink : Sink σ ε} {state : σ}
    {ticker : Ticker} (takesEvery : sink.TakesEvery state ticker) {capacity : Nat}
    (capacity_pos : 0 < capacity) :
    let bytes := stream.readAll.1
    let found := query.fullScan (wholePart bytes)
    let final := sink.finish (sink.after state (ticker.arrivals found))
    let setup : Network.Setup LineReader σ ε := ⟨capacity, capacity_pos, LineReader.next?, sink⟩
    ∃ summary : Summary,
      query.run stream sink state ticker = (final.1, final.2.map fun _ => summary) ∧
        summary.delivered = found.length ∧
        ((∀ t ∈ dates query.recognizer.ofBytes bytes, t ≤ query.window.finish) →
          summary.streamError = some cause.message) ∧
        ((∃ t ∈ dates query.recognizer.ofBytes bytes, query.window.finish < t) →
          summary.streamError = none) ∧
        (query.network stream state ticker).Terminates setup ∧
        ∀ network, Network.Reaches setup (query.network stream state ticker) network →
          (network.steps setup = [] → network.isFinished = true) ∧
            (network.isFinished = true →
              network.downstream.last.consumed = found ∧
                network.downstream.last.state = final.1 ∧
                network.summary? = some (final.2.map fun _ => summary)) := by
  intro bytes found final setup
  obtain ⟨found_eq, failure⟩ := found_failing failing ordered forwards
  have found_eq : query.found stream = found := found_eq
  have ran : query.run stream sink state ticker =
      (final.1, final.2.map fun _ => query.summary stream) := by
    rw [query.run_of_takesEvery stream takesEvery, found_eq]
  refine ⟨query.summary stream, ran, congrArg List.length found_eq, fun timely => ?_, fun late => ?_,
    Network.terminates_of_yields (query.yields_intake stream), ?_⟩
  · -- no line is late, so that the reader comes upon the failure
    have none_late : (dates query.recognizer.ofBytes bytes).any (query.window.finish < ·) = false := by
      rw [List.any_eq_false]
      intro t member
      simpa [Time.DateTime.not_lt] using timely t member
    rw [none_late] at failure
    simp [summary, failure]
  · -- a late line ends the reading ahead of the failure
    have some_late : (dates query.recognizer.ofBytes bytes).any (query.window.finish < ·) = true := by
      simpa [List.any_eq_true] using late
    rw [some_late] at failure
    simp [summary, failure]
  · intro network reaches
    refine ⟨(Network.follows_of_reaches reaches).finished, fun finished => ?_⟩
    have same := query.summary_run stream takesEvery capacity_pos reaches finished
    rw [found_eq, ran] at same
    exact same

def brokenOff : ByteStream :=
  [.bytes (Text.encode "2020-01-01 09:00:00 a\n2020-01-02 09:00:00 b\n2020-01-02 09:30:00 c".toList),
    .failure ⟨.other, "gone"⟩]

theorem brokenOff_found :
    let query : Query := { window := secondDay, recognizer := inUtc, blockSize := 16 }
    let found : List Record :=
      [⟨"2020-01-02 09:00:00 b", some ⟨1577955600, Time.toNano 0, 0⟩, ["2020-01-02", "09:00:00", "b"]⟩]
    let setup : Network.Setup LineReader Collector Failure :=
      ⟨1, by decide, LineReader.next?, Collector.sink⟩
    let ticker : Ticker := fun _ => 1
    ∃ summary : Summary,
      (query.run brokenOff Collector.sink {} ticker).2 = .ok summary ∧
        summary.delivered = 1 ∧
        summary.streamError = some "gone" ∧
        (query.network brokenOff {} ticker).Terminates setup ∧
        ∀ network, Network.Reaches setup (query.network brokenOff {} ticker) network →
          (network.steps setup = [] → network.isFinished = true) ∧
            (network.isFinished = true →
              network.downstream.last.consumed = found ∧ network.summary? = some (.ok summary)) := by
  intro query found setup ticker
  obtain ⟨scanned, timely⟩ : query.fullScan (wholePart brokenOff.readAll.1) = found ∧
      ∀ t ∈ dates query.recognizer.ofBytes brokenOff.readAll.1, t ≤ query.window.finish := by
    decide +kernel
  obtain ⟨summary, ran, delivered, told, -, terminates, network⟩ :=
    @finds_wholePart brokenOff Collector Failure query ⟨.other, "gone"⟩ rfl (by decide +kernel)
      (by decide) Collector.sink {} ticker (Collector.takesEvery rfl rfl ticker) 1 (by decide)
  rw [scanned] at ran delivered network
  refine ⟨summary, congrArg Prod.snd ran, delivered, told timely, terminates,
    fun reached reaches => ?_⟩
  obtain ⟨ends, inTheEnd⟩ := network reached reaches
  refine ⟨ends, fun finished => ?_⟩
  obtain ⟨consumed, -, told⟩ := inTheEnd finished
  exact ⟨consumed, told⟩

end LogQuery.Pipeline.Query

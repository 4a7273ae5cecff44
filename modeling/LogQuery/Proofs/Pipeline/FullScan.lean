import LogQuery.Proofs.Pipeline.Tagging

/-! What a query finds in the lines that are served is what it finds in the whole input. -/

set_option autoImplicit false

namespace LogQuery.Pipeline.Query

open ByteStream
open SeekingReader (ofStream isFresh_ofStream drain_eq exhaust_covers unread_ofStream)

variable {query : Query} {stream : ByteStream}

theorem filterMap_segments (recognizer : Time.Recognizer) (bytes : List UInt8) :
    (segments bytes).filterMap recognizer.ofBytes = dates recognizer.ofBytes bytes := by
  rw [dates]
  congr 1
  funext line
  exact (recognizer.ignoresNewline line).symm

theorem lines_eq_texts (bytes : List UInt8) :
    (linesOf bytes).map lineText = texts (segments bytes) := by
  rw [linesOf_eq, List.map_map]
  rfl

theorem intake_eq (query : Query) (stream : ByteStream) :
    let (given, failure, _) :=
      (ofStream stream query.window query.recognizer.ofBytes query.blockSize).exhaust
        fun _ => readSize
    (query.intake stream).failure = failure ∧
      (failure = none → (query.intake stream).lines = texts (segments given)) := by
  rw [intake, drain_eq (isFresh_ofStream ..)]
  rcases SeekingReader.exhaust _ _ with ⟨given, failure, final⟩
  refine ⟨rfl, ?_⟩
  rintro rfl
  exact lines_eq_texts given

/-- Of lines in the order of their dates, the stages let through what the query finds in the whole
input. -/
theorem results_intake (unbroken : stream.readAll.2 = none)
    (ordered : (dates query.recognizer.ofBytes stream.readAll.1).Pairwise (· ≤ ·)) :
    results query.stages ((query.intake stream).lines.map fun line => { line }) =
      query.fullScan stream.readAll.1 := by
  have positive : ∀ _ : Nat, 0 < readSize := fun _ => by decide
  have exhausted := exhaust_covers query.window query.blockSize positive unbroken
    query.recognizer.ignoresNewline ordered
  have intake := intake_eq query stream
  obtain ⟨none_told, skipped, served, reader, covers, -⟩ := exhausted
  obtain ⟨rest, cut, next⟩ := covers.lines
  have lines : (query.intake stream).lines = texts served := by
    rw [intake.2 none_told, ← covers.given]
    have behind := (segments_cut cut).2.1
    rw [(segments_cut behind).1]
  rw [unread_ofStream] at cut
  have input : (linesOf stream.readAll.1).map lineText = texts (skipped ++ (served ++ rest)) := by
    rw [lines_eq_texts, cut]
  rw [results_stages, lines, fullScan, input, filter_served]
  · rw [← cut, filterMap_segments]
    exact ordered
  · exact covers.early
  · rcases next with ⟨_, line, lines, behind, isLate, _⟩ | ⟨_, behind⟩
    · exact .inr ⟨line, lines, behind, isLate⟩
    · exact .inl behind

end LogQuery.Pipeline.Query

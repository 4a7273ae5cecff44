import LogQuery.Proofs.ByteStream.Lines
import LogQuery.Proofs.Pipeline.Stages
import LogQuery.Proofs.SeekingReader.Window

/-! Dating lines from the middle of the input on.

A line that is dated differently because the lines before it were not seen has no date of its own,
and neither had any line since; what would have been carried on to it lies outside the window. So
the time filter drops it either way.
-/

set_option autoImplicit false

namespace LogQuery.Pipeline.Query

open ByteStream SeekingReader

variable {query : Query}

theorem within_of_admits {record : Record} (admits : query.admits record = true) :
    ∃ t, record.time = some t ∧ query.window.contains t = true := by
  have within := (Bool.and_eq_true_iff.1 admits).1
  rw [Record.isWithin] at within
  cases time : record.time with
  | none => simp [time] at within
  | some t => exact ⟨t, rfl, by simpa [time] using within⟩

def IsOutside (query : Query) (time : Option Time.DateTime) : Prop :=
  ∀ t, time = some t → query.window.contains t = false

theorem not_admits {line : String} {time : Option Time.DateTime} {columns : List String}
    (outside : query.IsOutside time) : ¬ query.admits ⟨line, time, columns⟩ = true := by
  intro admits
  obtain ⟨t, time, contains⟩ := within_of_admits admits
  simp [outside t time] at contains

def taggerAfter (tagger : Time.Tagger) : List String → Time.Tagger
  | [] => tagger
  | line :: lines => taggerAfter (tagger.tag line.toList).2 lines

theorem recordsFrom_append (tagger : Time.Tagger) (first second : List String) :
    recordsFrom tagger (first ++ second) =
      recordsFrom tagger first ++ recordsFrom (taggerAfter tagger first) second := by
  induction first generalizing tagger with
  | nil => rfl
  | cons line first ih =>
    rw [List.cons_append, recordsFrom, recordsFrom, taggerAfter, ih, List.cons_append]

theorem recognizer_tag (tagger : Time.Tagger) (line : List Char) :
    (tagger.tag line).2.recognizer = tagger.recognizer := by
  rw [Time.Tagger.tag]

theorem recognizer_after (tagger : Time.Tagger) (lines : List String) :
    (taggerAfter tagger lines).recognizer = tagger.recognizer := by
  induction lines generalizing tagger with
  | nil => rfl
  | cons line lines ih => rw [taggerAfter, ih, recognizer_tag]

def AllOutside (query : Query) (recognizer : Time.Recognizer) (lines : List String) : Prop :=
  ∀ line ∈ lines, query.IsOutside (recognizer.ofText line.toList)

theorem outside_tag {tagger : Time.Tagger} {line : String}
    (own : query.IsOutside (tagger.recognizer.ofText line.toList))
    (carried : query.IsOutside tagger.last) :
    query.IsOutside (tagger.tag line.toList).1 := by
  intro t tagged
  rw [Time.Tagger.tag] at tagged
  cases found : tagger.recognizer.ofText line.toList with
  | none => exact carried t (by simpa [found] using tagged)
  | some d => exact own t (by simpa [found] using tagged)

/-- Lines outside the window are dropped, and leave a date outside it to be carried on. -/
theorem outside_records {tagger : Time.Tagger} {lines : List String}
    (own : query.AllOutside tagger.recognizer lines) (carried : query.IsOutside tagger.last) :
    (recordsFrom tagger lines).filter query.admits = [] ∧
      query.IsOutside (taggerAfter tagger lines).last := by
  induction lines generalizing tagger with
  | nil => exact ⟨rfl, carried⟩
  | cons line lines ih =>
    have tagged := outside_tag (own line List.mem_cons_self) carried
    have ownRest : query.AllOutside (tagger.tag line.toList).2.recognizer lines := by
      rw [recognizer_tag]
      exact fun line member => own line (List.mem_cons_of_mem _ member)
    rw [recordsFrom, List.filter_cons_of_neg (not_admits tagged), taggerAfter]
    exact ih ownRest tagged

theorem tag_own {tagger : Time.Tagger} {line : List Char} {d : Time.DateTime}
    (found : tagger.recognizer.ofText line = some d) :
    tagger.tag line = (some d, { tagger with last := some d }) := by
  rw [Time.Tagger.tag, found]
  rfl

theorem tag_carried {tagger : Time.Tagger} {line : List Char}
    (found : tagger.recognizer.ofText line = none) : tagger.tag line = (tagger.last, tagger) := by
  rw [Time.Tagger.tag, found]
  rfl

theorem recordsFrom_own {tagger : Time.Tagger} {line : String} {d : Time.DateTime}
    (found : tagger.recognizer.ofText line.toList = some d) (lines : List String) :
    recordsFrom tagger (line :: lines) =
      recordsFrom ⟨tagger.recognizer, none⟩ (line :: lines) := by
  have alone : (⟨tagger.recognizer, none⟩ : Time.Tagger).tag line.toList =
      (some d, { tagger with last := some d }) := tag_own found
  rw [recordsFrom, recordsFrom, tag_own found, alone]

/-- Two dates to be carried on, both outside the window, make no difference. -/
theorem filter_carried {tagger tagger' : Time.Tagger}
    (same : tagger.recognizer = tagger'.recognizer) (carried : query.IsOutside tagger.last)
    (carried' : query.IsOutside tagger'.last) (lines : List String) :
    (recordsFrom tagger lines).filter query.admits =
      (recordsFrom tagger' lines).filter query.admits := by
  induction lines generalizing tagger tagger' with
  | nil => rfl
  | cons line lines ih =>
    rw [recordsFrom, recordsFrom]
    cases found : tagger.recognizer.ofText line.toList with
    | some d =>
      -- from here on both taggers are the same
      rw [tag_own found, tag_own (same ▸ found), same]
    | none =>
      rw [tag_carried found, tag_carried (same ▸ found), List.filter_cons_of_neg (not_admits carried),
        List.filter_cons_of_neg (not_admits carried'), ih same carried carried']

/-! ### The lines that are served -/

def texts (lines : List (List UInt8)) : List String :=
  lines.map fun line => lineText (content line)

theorem texts_append (first second : List (List UInt8)) :
    texts (first ++ second) = texts first ++ texts second :=
  List.map_append

theorem ofText_texts (recognizer : Time.Recognizer) {lines : List (List UInt8)} {text : String}
    (member : text ∈ texts lines) :
    ∃ line ∈ lines, recognizer.ofText text.toList = recognizer.ofBytes line := by
  obtain ⟨line, among, rfl⟩ := List.mem_map.1 member
  exact ⟨line, among, ofText_content recognizer line⟩

theorem not_contains_of_early {window : Time.Window} {t : Time.DateTime}
    (early : t < window.start) : window.contains t = false := by
  rw [Bool.eq_false_iff]
  intro contains
  exact Time.DateTime.not_le.2 early ((window.contains_iff t).1 contains).1

theorem not_contains_of_late {window : Time.Window} {t : Time.DateTime}
    (late : window.finish < t) : window.contains t = false := by
  rw [Bool.eq_false_iff]
  intro contains
  exact Time.DateTime.not_le.2 late ((window.contains_iff t).1 contains).2

theorem outside_of_early {lines : List (List UInt8)}
    (early : ∀ line ∈ lines, hasReached query.recognizer.ofBytes query.window.start line = false) :
    query.AllOutside query.recognizer (texts lines) := by
  intro text member t dated
  obtain ⟨line, among, same⟩ := ofText_texts query.recognizer member
  have notReached := early line among
  rw [hasReached, ← same, dated] at notReached
  exact not_contains_of_early (by simpa [Time.DateTime.not_le] using notReached)

theorem outside_of_late {line : List UInt8} {lines : List (List UInt8)}
    (late : isLate query.recognizer.ofBytes query.window.finish line = true)
    (ordered : ((line :: lines).filterMap query.recognizer.ofBytes).Pairwise (· ≤ ·)) :
    query.AllOutside query.recognizer (texts (line :: lines)) := by
  rw [isLate, Option.any_eq_true] at late
  obtain ⟨first, dated, late⟩ := late
  have late : query.window.finish < first := by simpa using late
  rw [List.filterMap_cons_some dated] at ordered
  intro text member t found
  obtain ⟨other, among, same⟩ := ofText_texts query.recognizer member
  rw [found] at same
  apply not_contains_of_late
  rcases List.mem_cons.1 among with rfl | behind
  · rw [dated] at same
    rwa [Option.some_inj.1 same]
  · have after := (List.pairwise_cons.1 ordered).1 t
      (List.mem_filterMap.2 ⟨other, behind, same.symm⟩)
    exact Time.DateTime.lt_of_lt_of_le late after

/-- Lines cut off in front that are too early, and lines cut off behind from a late one on, do not
count for what the query finds. -/
theorem filter_served {skipped served rest : List (List UInt8)}
    (ordered : ((skipped ++ (served ++ rest)).filterMap query.recognizer.ofBytes).Pairwise (· ≤ ·))
    (early : ∀ line ∈ skipped, hasReached query.recognizer.ofBytes query.window.start line = false)
    (late : rest = [] ∨ ∃ line lines, rest = line :: lines ∧
      isLate query.recognizer.ofBytes query.window.finish line = true) :
    (recordsOf query.recognizer (texts (skipped ++ (served ++ rest)))).filter query.admits =
      (recordsOf query.recognizer (texts served)).filter query.admits := by
  have undated : query.IsOutside none := fun t impossible => by simp at impossible
  have front : _ ∧ query.IsOutside (taggerAfter ⟨query.recognizer, none⟩ (texts skipped)).last :=
    outside_records (outside_of_early early) undated
  -- what the skipped lines leave to carry on is outside the window, like nothing at all
  have middle : (recordsFrom (taggerAfter ⟨query.recognizer, none⟩ (texts skipped))
      (texts served)).filter query.admits =
        (recordsFrom ⟨query.recognizer, none⟩ (texts served)).filter query.admits :=
    filter_carried (recognizer_after _ _) front.2 undated (texts served)
  have back (tagger : Time.Tagger) (same : tagger.recognizer = query.recognizer) :
      (recordsFrom tagger (texts rest)).filter query.admits = [] := by
    rcases late with rfl | ⟨line, lines, rfl, isLate⟩
    · rfl
    · obtain ⟨d, dated, _⟩ := (Option.any_eq_true _ _).1 isLate
      rw [← ofText_content] at dated
      rw [List.filterMap_append, List.filterMap_append] at ordered
      have ordered := (List.pairwise_append.1 (List.pairwise_append.1 ordered).2.1).2.1
      have dropped : (recordsFrom ⟨query.recognizer, none⟩ (texts (line :: lines))).filter
          query.admits = [] ∧ _ := outside_records (outside_of_late isLate ordered) undated
      rw [texts, List.map_cons, recordsFrom_own (same ▸ dated), same]
      exact dropped.1
  rw [recordsOf_eq, recordsOf_eq, texts_append, texts_append, recordsFrom_append,
    recordsFrom_append, List.filter_append, List.filter_append, front.1, List.nil_append, middle,
    back _ (by rw [recognizer_after, recognizer_after]), List.append_nil]

end LogQuery.Pipeline.Query

import LogQuery.Proofs.Pipeline.Waiting
import LogQuery.Proofs.Source.Archive

/-! What a query finds in the hourly files that its window opens, against what it finds in all of
them.

Every file begins with a dated line, so nothing is carried into it: what is found in a row of files
is what is found in each. All of that lies in the file's own hour, so a file whose hour has nothing
in common with the window may be left out.
-/

set_option autoImplicit false

namespace LogQuery.Pipeline.Query

open ByteStream (dates segments ofText_content)
open Hourly (hourOf hourStart hourBehind hourCeiling hoursOf IsWholeHour)
open SeekingReader (inUtc)

variable {query : Query} {offset : Int} {σ ε : Type}

/-! ### One file -/

theorem time_of_recordsFrom {isFit : Time.DateTime → Prop} {tagger : Time.Tagger}
    {lines : List String}
    (own : ∀ line ∈ lines, ∀ t, tagger.recognizer.ofText line.toList = some t → isFit t)
    {last : Time.DateTime} (carried : tagger.last = some last) (fit : isFit last) {record : Record}
    (member : record ∈ recordsFrom tagger lines) : ∃ t, record.time = some t ∧ isFit t := by
  induction lines generalizing tagger last with
  | nil => cases member
  | cons line lines ih =>
    have further := fun other among => own other (List.mem_cons_of_mem line among)
    rw [recordsFrom] at member
    cases found : tagger.recognizer.ofText line.toList with
    | none =>
      rw [tag_carried found] at member
      rcases List.mem_cons.1 member with rfl | member
      · exact ⟨last, carried, fit⟩
      · exact ih further carried fit member
    | some t =>
      rw [tag_own found] at member
      have fit := own line List.mem_cons_self t found
      rcases List.mem_cons.1 member with rfl | member
      · exact ⟨t, rfl, fit⟩
      · exact @ih ⟨tagger.recognizer, some t⟩ further t rfl fit member

section File

variable {file : HourFile} (proper : file.IsProper query.recognizer offset)

include proper

theorem first_dated : ∃ line lines t, texts (segments file.bytes) = line :: lines ∧
    query.recognizer.ofText line.toList = some t := by
  have begins := proper.begins
  cases cut : segments file.bytes with
  | nil => simp [cut] at begins
  | cons line lines =>
    rw [cut, List.head?_cons, Option.any_some, Option.isSome_iff_exists] at begins
    obtain ⟨t, dated⟩ := begins
    exact ⟨_, _, t, rfl, (ofText_content query.recognizer line).trans dated⟩

/-- What was dated before a proper file does not count in it. -/
theorem recordsFrom_proper {tagger : Time.Tagger} (same : tagger.recognizer = query.recognizer) :
    recordsFrom tagger (texts (segments file.bytes)) =
      recordsOf query.recognizer (texts (segments file.bytes)) := by
  obtain ⟨line, lines, t, cut, dated⟩ := first_dated proper
  rw [cut, recordsOf_eq, recordsFrom_own (same ▸ dated), same]

theorem hour_of_recordsOf {record : Record}
    (member : record ∈ recordsOf query.recognizer (texts (segments file.bytes))) :
    ∃ t, record.time = some t ∧ hourOf offset t = file.hour := by
  have own : ∀ line ∈ texts (segments file.bytes), ∀ t,
      query.recognizer.ofText line.toList = some t → hourOf offset t = file.hour := by
    intro text among t dated
    obtain ⟨line, among, same⟩ := ofText_texts query.recognizer among
    apply proper.own
    rw [← filterMap_segments, List.mem_filterMap]
    exact ⟨line, among, same.symm.trans dated⟩
  obtain ⟨line, lines, t, cut, dated⟩ := first_dated proper
  have tagged : (⟨query.recognizer, none⟩ : Time.Tagger).tag line.toList =
      (some t, ⟨query.recognizer, some t⟩) := tag_own dated
  rw [cut] at own member
  rw [recordsOf_eq, recordsFrom, tagged] at member
  have fit := own line List.mem_cons_self t dated
  rcases List.mem_cons.1 member with rfl | member
  · exact ⟨t, rfl, fit⟩
  · have further := fun other among => own other (List.mem_cons_of_mem line among)
    exact @time_of_recordsFrom (hourOf offset · = file.hour) ⟨query.recognizer, some t⟩ lines
      further t rfl fit record member

theorem hour_of_fullScan {record : Record} (member : record ∈ query.fullScan file.bytes) :
    ∃ t, record.time = some t ∧ hourOf offset t = file.hour ∧ query.window.contains t = true := by
  rw [fullScan, lines_eq_texts, List.mem_map] at member
  obtain ⟨found, member, rfl⟩ := member
  obtain ⟨among, admits⟩ := List.mem_filter.1 member
  obtain ⟨t, time, hour⟩ := hour_of_recordsOf proper among
  obtain ⟨t', time', within⟩ := within_of_admits admits
  obtain rfl := Option.some_inj.1 (time.symm.trans time')
  exact ⟨t, time, hour, within⟩

theorem early_fullScan {behind : Int} (before : file.hour < behind) :
    (query.fullScan file.bytes).filter
      (fun record => record.time.any (· < hourStart offset behind)) = query.fullScan file.bytes := by
  rw [List.filter_eq_self]
  intro record member
  obtain ⟨t, time, hour, -⟩ := hour_of_fullScan proper member
  simp [time, Hourly.lt_hourStart, hour, before]

theorem early_fullScan_nil {behind : Int}
    (outside : file.hour < hourOf offset query.window.start ∨ behind ≤ file.hour) :
    (query.fullScan file.bytes).filter
      (fun record => record.time.any (· < hourStart offset behind)) = [] := by
  rw [List.filter_eq_nil_iff]
  intro record member early
  obtain ⟨t, time, hour, within⟩ := hour_of_fullScan proper member
  have started : hourOf offset query.window.start ≤ hourOf offset t :=
    Hourly.hourOf_mono ((query.window.contains_iff t).1 within).1
  simp only [time, Option.any_some, decide_eq_true_eq, Hourly.lt_hourStart] at early
  omega

end File

/-! ### Several files -/

theorem recordsFrom_files {files : List HourFile}
    (proper : ∀ file ∈ files, file.IsProper query.recognizer offset) {tagger : Time.Tagger}
    (same : tagger.recognizer = query.recognizer) :
    recordsFrom tagger (texts (files.flatMap fun file => segments file.bytes)) =
      files.flatMap fun file => recordsOf query.recognizer (texts (segments file.bytes)) := by
  induction files generalizing tagger with
  | nil => rfl
  | cons file files ih =>
    rw [List.flatMap_cons, List.flatMap_cons, texts_append, recordsFrom_append,
      recordsFrom_proper (proper file List.mem_cons_self) same,
      ih (fun other among => proper other (List.mem_cons_of_mem _ among))
        ((recognizer_after _ _).trans same)]

/-- A look at the files one behind the other is a look at each of them. -/
theorem fullScan_files {files : List HourFile}
    (proper : ∀ file ∈ files, file.IsProper query.recognizer offset) :
    query.fullScan (files.flatMap (·.bytes)) =
      files.flatMap fun file => query.fullScan file.bytes := by
  have records : recordsFrom ⟨query.recognizer, none⟩ _ = _ := recordsFrom_files proper rfl
  rw [← recordsOf_eq, ← segments_flatMap fun file member => (proper file member).whole] at records
  simp only [fullScan, lines_eq_texts, records, List.filter_flatMap, List.map_flatMap]

theorem found_archive (query : Query) (archive : Archive query.recognizer offset) :
    query.found archive.stream = archive.files.flatMap fun file => query.fullScan file.bytes := by
  have unbroken : archive.stream.readAll.2 = none := by rw [archive.readAll_stream]
  rw [found, results_intake unbroken (by rw [archive.readAll_stream]; exact archive.ordered),
    archive.readAll_stream, fullScan_files archive.proper]

/-- Of all that a query finds in an archive, what is dated before an hour is in the files from the
hour in which the window starts up to that hour. -/
theorem found_between (query : Query) (archive : Archive query.recognizer offset) (behind : Int) :
    query.found (archive.between (hourOf offset query.window.start) behind).stream =
      (query.found archive.stream).filter fun record =>
        record.time.any (· < hourStart offset behind) := by
  rw [found_archive, found_archive, Archive.files_between, List.filter_flatMap]
  have proper := archive.proper
  revert proper
  induction archive.files with
  | nil => exact fun _ => rfl
  | cons file files ih =>
    intro proper
    have own := proper file List.mem_cons_self
    have further := ih fun other among => proper other (List.mem_cons_of_mem _ among)
    rw [List.flatMap_cons, ← further, List.filter_cons]
    split
    · next chosen =>
      rw [Bool.and_eq_true, decide_eq_true_eq, decide_eq_true_eq] at chosen
      rw [List.flatMap_cons, early_fullScan own chosen.2]
    · next passed =>
      rw [Bool.and_eq_true, decide_eq_true_eq, decide_eq_true_eq] at passed
      rw [early_fullScan_nil own (by omega), List.nil_append]

/-- From a window that starts and ends by the same clocks, what is found in the hourly files that it
opens is what is found in all files of the category and is dated before the hour that ends the last
of them. That is all, unless the window ends with a whole hour: the file that begins there is not
opened, so of what is dated at that very time, which is within the window, nothing is found. The
sink is handed the same by processes side by side. -/
theorem finds_hourly (query : Query) (archive : Archive query.recognizer offset)
    (startsIn : query.window.start.offset = offset) (endsIn : query.window.finish.offset = offset)
    {disk : Disk} {directory category : String}
    (stands : ∀ hour ∈ hoursOf query.window, archive.StandsOn disk directory category hour)
    {sink : Sink σ ε} {state : σ} {ticker : Ticker} {capacity : Nat}
    (capacity_pos : 0 < capacity) :
    let all := query.found archive.stream
    let early := all.filter fun record => record.time.any (· < hourCeiling query.window.finish)
    ∃ chosen, ((Chain.hourly directory category).openFor disk query.window).2 = .ok chosen ∧
      query.found chosen = early ∧
      (¬ IsWholeHour query.window.finish → early = all) ∧
      (IsWholeHour query.window.finish →
        early = all.filter fun record => record.time.any (· < query.window.finish)) ∧
      ∀ network, Network.Reaches ⟨capacity, capacity_pos, LineReader.next?, sink⟩
          (query.network chosen state ticker) network →
        network.downstream.last.hasEnded = true →
        network.downstream.last.consumed = sink.taken state (ticker.arrivals early) := by
  intro all early
  have found : query.found
      (archive.between (hourOf offset query.window.start) (hourBehind query.window.finish)).stream =
        early := by
    have ceiling : hourCeiling query.window.finish =
        hourStart offset (hourBehind query.window.finish) := by
      rw [Hourly.hourCeiling_eq, endsIn]
    rw [found_between, ← ceiling]
  refine ⟨_, archive.openFor_eq startsIn endsIn stands, found, fun broken => ?_,
    fun whole => ?_, ?_⟩
  · -- what is found lies within the window, and that ends inside the last hour opened
    apply List.filter_eq_self.2
    intro record member
    rw [show all = _ from found_archive query archive, List.mem_flatMap] at member
    obtain ⟨file, among, member⟩ := member
    obtain ⟨t, time, -, within⟩ := hour_of_fullScan (archive.proper file among) member
    have inTime := ((query.window.contains_iff t).1 within).2
    simpa [time] using Time.DateTime.lt_of_le_of_lt inTime (Hourly.lt_hourCeiling broken)
  · have same : (hourCeiling query.window.finish).position = query.window.finish.position := by
      rw [Hourly.hourCeiling_whole whole]
      exact whole
    simp only [early, Time.DateTime.lt_def, same]
  · intro network reaches ended
    rw [← found]
    exact ((Network.follows_of_reaches reaches).consumed (query.yields_intake _)).2 ended

def twoHours : Archive inUtc 0 where
  files :=
    [⟨411369, Text.encode "2016-12-05 09:10:00 nine\n".toList⟩,
     ⟨411370, Text.encode "2016-12-05 10:00:00 ten\n".toList⟩]
  ascending := by decide
  proper := by
    intro file member
    rcases List.mem_pair.1 member with rfl | rfl
    · exact ⟨.inr (by decide), by decide +kernel, by decide +kernel⟩
    · exact ⟨.inr (by decide), by decide +kernel, by decide +kernel⟩
  ordered := by decide +kernel

def shelf : Disk where
  entries :=
    [(["scribe"], .directory), (["scribe", "www"], .directory)] ++
      (["www-2016-12-05_00009", "www-2016-12-05_00010"].zip twoHours.files).map
        fun (name, file) => (["scribe", "www", name], .file file.bytes)

theorem twoHours_standsOn {hour : Int} (among : hour = 411369 ∨ hour = 411370) :
    twoHours.StandsOn shelf "scribe" "www" (hourStart 0 hour) := by
  have opens : ∀ file ∈ twoHours.files,
      shelf.openFile (Hourly.filePath "scribe" "www" (hourStart 0 file.hour)) =
        .ok [.bytes file.bytes] := by
    decide +kernel
  have held : ∃ file, twoHours.file? hour = some file ∧
      file ∈ twoHours.files ∧ file.hour = hour := by
    rcases among with rfl | rfl
    · exact ⟨_, rfl, List.mem_cons_self, rfl⟩
    · exact ⟨_, rfl, List.mem_cons_of_mem _ List.mem_cons_self, rfl⟩
  obtain ⟨file, found, member, rfl⟩ := held
  rw [Archive.StandsOn, Hourly.hourOf_hourStart, found]
  exact opens file member

theorem bothHours_found :
    let query : Query := {
      window := ⟨hourStart 0 411369, ⟨1480932001, Time.toNano 0, 0⟩⟩
      recognizer := inUtc }
    ∃ chosen, ((Chain.hourly "scribe" "www").openFor shelf query.window).2 = .ok chosen ∧
      (query.found chosen).map (·.line) =
        ["2016-12-05 09:10:00 nine", "2016-12-05 10:00:00 ten"] := by
  intro query
  have hours : hoursOf query.window = [hourStart 0 411369, hourStart 0 411370] := by decide +kernel
  have stands : ∀ hour ∈ hoursOf query.window, twoHours.StandsOn shelf "scribe" "www" hour := by
    rw [hours]
    intro hour member
    rcases List.mem_pair.1 member with rfl | rfl
    · exact twoHours_standsOn (.inl rfl)
    · exact twoHours_standsOn (.inr rfl)
  obtain ⟨chosen, opened, found, broken, -⟩ := @finds_hourly 0 Collector Failure query twoHours rfl
    rfl shelf "scribe" "www" stands Collector.sink {} .never 1 (by decide)
  have all : (query.found twoHours.stream).map (·.line) =
      ["2016-12-05 09:10:00 nine", "2016-12-05 10:00:00 ten"] := by
    rw [found_archive]
    decide +kernel
  refine ⟨chosen, opened, ?_⟩
  rw [found, broken (by decide +kernel)]
  exact all

/-- A window that ends with the beginning of the second hour holds both lines, but opens only the
first file, so the second line is lost. -/
theorem lastInstant_lost :
    let query : Query := {
      window := ⟨hourStart 0 411369, hourStart 0 411370⟩
      recognizer := inUtc }
    query.window.start ≤ query.window.finish ∧
      (∀ hour ∈ hoursOf query.window, twoHours.StandsOn shelf "scribe" "www" hour) ∧
      (query.found twoHours.stream).map (·.line) =
        ["2016-12-05 09:10:00 nine", "2016-12-05 10:00:00 ten"] ∧
      ∃ chosen, ((Chain.hourly "scribe" "www").openFor shelf query.window).2 = .ok chosen ∧
        (query.found chosen).map (·.line) = ["2016-12-05 09:10:00 nine"] := by
  intro query
  have hours : hoursOf query.window = [hourStart 0 411369] := by decide +kernel
  have stands : ∀ hour ∈ hoursOf query.window, twoHours.StandsOn shelf "scribe" "www" hour := by
    rw [hours]
    intro hour member
    rw [List.mem_singleton.1 member]
    exact twoHours_standsOn (.inl rfl)
  have opened := twoHours.openFor_eq rfl rfl stands
  refine ⟨by decide, stands, ?_, _, opened, ?_⟩
  · rw [found_archive]
    decide +kernel
  · rw [found_archive]
    decide +kernel

end LogQuery.Pipeline.Query

import LogQuery.Proofs.Time.Capturing
import LogQuery.Proofs.Time.Recognizer

/-! A datetime that is written at the beginning of a line is found and read as it was written. -/

set_option autoImplicit false

namespace LogQuery.Time

theorem Writing.hasYear_format (writing : Writing) : writing.format.hasYear = true := by
  cases writing <;> rfl

theorem Writing.hasOffset_format (writing : Writing) :
    writing.format.hasOffset = writing.offset?.isSome := by
  cases writing <;> rfl

theorem Writing.exists_format {format : LineFormat} (member : format ∈ LineFormat.all)
    (hasYear : format.hasYear = true) : ∃ writing : Writing, writing.format = format := by
  have half : Fraction := ⟨false, 1, 5, by decide, by decide, by decide⟩
  have monday : Weekday := ⟨"Mon", by decide⟩
  simp only [LineFormat.all, List.mem_cons, List.not_mem_nil, or_false] at member
  rcases member with rfl | rfl | rfl | rfl | rfl | rfl | rfl | rfl | rfl | rfl | rfl | rfl | rfl |
    rfl | rfl | rfl | rfl
  · exact ⟨.isoFractionSpaceOffset half .utc false, rfl⟩
  · exact ⟨.isoFractionOffset half .zulu, rfl⟩
  · exact ⟨.isoOffset .zulu, rfl⟩
  · exact ⟨.isoFraction half, rfl⟩
  · exact ⟨.iso, rfl⟩
  · exact ⟨.plainFractionOffset half false .utc false, rfl⟩
  · exact ⟨.plainFraction half, rfl⟩
  · exact ⟨.plainOffset false .utc false, rfl⟩
  · exact ⟨.plain, rfl⟩
  · exact ⟨.monthFirst .padded, rfl⟩
  · exact ⟨.weekdayFirst monday .padded, rfl⟩
  · exact ⟨.mail monday true true (.numeric .utc), rfl⟩
  all_goals cases hasYear

theorem exists_namedZone {name offset : String} (listed : (name, offset) ∈ zoneNames) :
    ∃ zone : NamedZone, zone.name = name := by
  have wholeHours : (zoneNames.all fun zone => [false, true].any fun west =>
      (List.range 24).any fun hours => zone.2.toList ==
        (if west then '-' else '+') :: digits 2 hours ++ digits 2 0) = true := by decide
  obtain ⟨west, _, isWest⟩ := List.any_eq_true.1 (List.all_eq_true.1 wholeHours _ listed)
  obtain ⟨hours, inRange, written⟩ := List.any_eq_true.1 isWest
  have text : offset.toList =
      (Offset.mk west hours 0 (List.mem_range.1 inRange) (by decide)).text false := by
    rw [eq_of_beq written, Offset.text, if_neg Bool.false_ne_true, List.append_nil]
    rfl
  refine ⟨⟨name, ⟨west, hours, 0, List.mem_range.1 inRange, by decide⟩, ?_⟩, rfl⟩
  rwa [← text, String.ofList_toList]

namespace Recognizer

variable (r : Recognizer)

theorem ofValue_tidied (writing : Writing) (stamp : Stamp) :
    r.ofValue writing.format (writing.tidied.body stamp) =
      (stamp.reading writing).inOffset? ((writing.offset?.map Offset.seconds).getD r.offset) := by
  rw [ofValue, writing.hasYear_format, if_pos rfl, read, Reading.ofText_tidied,
    writing.hasOffset_format]
  cases written : writing.offset? with
  | none => rfl
  | some offset =>
    have carried : (stamp.reading writing).offset = some offset.seconds := by
      rw [Stamp.reading, written]
      rfl
    simp [Reading.dateTime?, carried, offset.inRange_seconds]

theorem ofText_of_place {line value : List Char} {writing : Writing} {t : DateTime}
    (overlooks : Overlooks (LineFormat.all.take writing.place) line)
    (captures : writing.format.value? line = some value)
    (isRead : r.ofValue writing.format value = some t) :
    r.ofText line = some t ∧ r.inFormat line writing.format = some t := by
  have own : r.inFormat line writing.format = some t := by
    rw [inFormat, captures]
    exact isRead
  refine ⟨?_, own⟩
  have before : (LineFormat.all.take writing.place).findSome? (r.inFormat line) = none := by
    rw [List.findSome?_eq_none_iff]
    intro format member
    rw [inFormat, overlooks format member]
  rw [ofText, writing.all_eq, List.findSome?_append, before, List.findSome?_cons, own]
  rfl

/-- A datetime at the beginning of a line is found, whatever its format leaves open, and read to the
nanosecond in the offset that it is written with, or else in the recognizer's. The ways of writing
miss no format with a year and no listed zone. -/
theorem ofText_writing (proper : DateTime.offsetInRange r.offset = true) (writing : Writing)
    (stamp : Stamp) {tail : List Char} (message : IsMessage tail) :
    (∀ format ∈ LineFormat.all, format.hasYear = true →
      ∃ other : Writing, other.format = format) ∧
    (∀ name offset, (name, offset) ∈ zoneNames → ∃ zone : NamedZone, zone.name = name) ∧
    ∃ t, r.ofText (writing.text stamp ++ tail) = some t ∧
      r.inFormat (writing.text stamp ++ tail) writing.format = some t ∧
      stamp.IsShown t ∧ t.nano.val = writing.nanos ∧
      t.offset = (writing.offset?.map Offset.seconds).getD r.offset := by
  have inRange : DateTime.offsetInRange
      ((writing.offset?.map Offset.seconds).getD r.offset) = true := by
    cases writing.offset? with
    | none => exact proper
    | some offset => exact offset.inRange_seconds
  obtain ⟨t, read, shown, nanos, offset⟩ := stamp.exists_instant writing inRange
  obtain ⟨found, own⟩ := r.ofText_of_place (overlooked writing stamp message)
    (captured writing stamp message) ((r.ofValue_tidied writing stamp).trans read)
  exact ⟨fun _ member hasYear => Writing.exists_format member hasYear,
    fun _ _ listed => exists_namedZone listed, t, found, own, shown, nanos, offset⟩

theorem ofText_leapDay : DateTime.offsetInRange 0 = true ∧ IsMessage " started".toList ∧
    ∃ t, (Recognizer.mk 0 ⟨0, 0, 0⟩).ofText "2016-02-29 06:57:36,250 +01:00 started".toList =
      some t ∧ t.seconds = 1456725456 ∧ t.nano.val = 250000000 ∧ t.offset = 3600 := by
  have message : IsMessage " started".toList := .inr ⟨'s', "tarted".toList, rfl, rfl⟩
  obtain ⟨-, -, t, found, _, shown, nanos, offset⟩ := ofText_writing (Recognizer.mk 0 ⟨0, 0, 0⟩) rfl
    (.plainFractionOffset ⟨true, 3, 250, by decide, by decide, by decide⟩ true
      ⟨false, 1, 0, by decide, by decide⟩ true)
    ⟨⟨2016, 2, 29⟩, 6, 57, 36, by decide, by decide, by decide, by decide, by decide, by decide⟩
    message
  have whole : t.seconds + t.offset = 1456729056 := shown.whole
  have carried : t.offset = 3600 := offset
  exact ⟨rfl, message, t, found, by omega, nanos, carried⟩

end Recognizer

end LogQuery.Time

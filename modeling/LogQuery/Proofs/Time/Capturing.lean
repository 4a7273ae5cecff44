import LogQuery.Proofs.Time.Matching

/-! Which format takes a written datetime.

The formats that are tried before a datetime's own take nothing of the line, and its own takes all
of the datetime and nothing of the message behind it.
-/

set_option autoImplicit false

namespace LogQuery.Time

open Text (Stops)
open Shape LineFormat

/-! ### Messages -/

namespace IsMessage

variable {tail : List Char} (message : IsMessage tail)

include message

/-- A message is not taken for the offset of a datetime before it. -/
theorem rests_offset : (seq space signedOffset).rests tail = [] ∧
    (seq (optional space) signedOffset).rests tail = [] := by
  rcases message with rfl | ⟨c, rest, rfl, lower⟩
  · exact ⟨rfl, rfl⟩
  · have noSign : Avoids Char.isLower signedOffset := avoids_seq (avoids_anyOf (by decide))
    have letter : signedOffset.rests (c :: rest) = [] :=
      rests_of_avoids noSign (by simpa using lower)
    exact ⟨(rests_seq (rests_space _)).trans letter, (rests_optional rfl).trans letter⟩

end IsMessage

/-! ### What a format takes -/

namespace LineFormat

variable {format : LineFormat} {line start : List Char}

theorem value?_of_rests {word rest : List Char} (lead : format.lead.rests line = [start])
    (body : (format.body.rests start).head? = some rest) (cut : start = word ++ rest) :
    format.value? line = some (format.tidying.apply word) := by
  rw [value?, capture?, lead, List.flatMap_singleton, List.head?_map, body, cut]
  simp

theorem value?_of_body_nil (lead : format.lead.rests line = [start])
    (body : format.body.rests start = []) : format.value? line = none := by
  rw [value?, capture?, lead, List.flatMap_singleton, body]
  rfl

theorem value?_of_body {word rest : List Char} (lead : format.lead = nothing)
    (body : (format.body.rests line).head? = some rest) (cut : line = word ++ rest) :
    format.value? line = some (format.tidying.apply word) :=
  value?_of_rests (by rw [lead, rests]) body cut

theorem value?_of_nothing (lead : format.lead = nothing) (body : format.body.rests line = []) :
    format.value? line = none :=
  value?_of_body_nil (by rw [lead, rests]) body

theorem value?_of_lead_nil (lead : format.lead.rests line = []) : format.value? line = none := by
  rw [value?, capture?, lead]
  rfl

end LineFormat

/-! ### Dates and clock times -/

section

variable (stamp : Stamp) (separator : Char) (ending : List Char) (shapes : List Shape)

theorem rests_dated : (sequence (date :: char separator :: clock :: shapes)).rests
    (Writing.dated stamp separator ending) = (sequence shapes).rests ending := by
  simp only [Writing.dated, List.append_assoc, List.cons_append]
  rw [rests_sequence (rests_date stamp _), rests_sequence (rests_char separator _),
    rests_sequence (rests_clock stamp _)]

theorem rests_dated_other {other : Char} (differs : separator ≠ other) :
    (sequence (date :: char other :: shapes)).rests
      (Writing.dated stamp separator ending) = [] := by
  simp only [Writing.dated, List.append_assoc, List.cons_append]
  rw [rests_sequence (rests_date stamp _)]
  exact rests_sequence_nil (rests_one_of_stops (Text.stops_cons (by simpa using differs) _)) _

end

/-! ### Formats that are tried before -/

def Writing.place : Writing → Nat
  | isoFractionSpaceOffset .. => 0
  | isoFractionOffset .. => 1
  | isoOffset .. => 2
  | isoFraction .. => 3
  | iso => 4
  | plainFractionOffset .. => 5
  | plainFraction .. => 6
  | plainOffset .. => 7
  | plain => 8
  | monthFirst .. => 9
  | weekdayFirst .. => 10
  | mail .. => 11

theorem Writing.all_eq (writing : Writing) : LineFormat.all =
    LineFormat.all.take writing.place ++ writing.format ::
      LineFormat.all.drop (writing.place + 1) := by
  cases writing <;> rfl

theorem body_letters : ∀ format ∈ LineFormat.all.take 5, format.lead = nothing ∧
    ∃ shapes, format.body = sequence (date :: char 'T' :: clock :: shapes) := by
  intro format member
  simp only [LineFormat.all, List.take_succ_cons, List.take_zero, List.mem_cons, List.not_mem_nil,
    or_false] at member
  rcases member with rfl | rfl | rfl | rfl | rfl <;> exact ⟨rfl, _, rfl⟩

theorem body_dates : ∀ format ∈ LineFormat.all.take 9, format.lead = nothing ∧
    ∃ shapes, format.body = sequence (date :: shapes) := by
  intro format member
  simp only [LineFormat.all, List.take_succ_cons, List.take_zero, List.mem_cons, List.not_mem_nil,
    or_false] at member
  rcases member with rfl | rfl | rfl | rfl | rfl | rfl | rfl | rfl | rfl <;> exact ⟨rfl, _, rfl⟩

/-- Does no format in a list take anything of the line? -/
def Overlooks (formats : List LineFormat) (line : List Char) : Prop :=
  ∀ format ∈ formats, format.value? line = none

namespace Overlooks

variable {line : List Char}

theorem nil : Overlooks [] line := List.forall_mem_nil _

theorem cons {format : LineFormat} {formats : List LineFormat}
    (first : format.value? line = none) (others : Overlooks formats line) :
    Overlooks (format :: formats) line := List.forall_mem_cons.2 ⟨first, others⟩

theorem append {first second : List LineFormat} (inFirst : Overlooks first line)
    (inSecond : Overlooks second line) : Overlooks (first ++ second) line :=
  List.forall_mem_append.2 ⟨inFirst, inSecond⟩

end Overlooks

theorem overlooks_letters (stamp : Stamp) (ending : List Char) :
    Overlooks (LineFormat.all.take 5) (Writing.dated stamp ' ' ending) := by
  intro format member
  obtain ⟨lead, shapes, body⟩ := body_letters format member
  refine value?_of_nothing lead ?_
  rw [body, rests_dated_other stamp ' ' ending (clock :: shapes) (by decide)]

theorem overlooks_dates {line : List Char} (stops : Stops Char.isDigit line) :
    Overlooks (LineFormat.all.take 9) line := by
  intro format member
  obtain ⟨lead, shapes, body⟩ := body_dates format member
  have digit : Avoids (!·.isDigit) date := avoids_seq (avoids_seq (avoids_anyOf (by decide)))
  refine value?_of_nothing lead ?_
  rw [body]
  exact rests_sequence_nil (rests_of_avoids digit fun c first => by simp [stops c first]) _

/-- The formats in front differ in what follows the clock time. -/
theorem value?_dated_none {format : LineFormat} {separator : Char} {shapes : List Shape}
    (lead : format.lead = nothing)
    (body : format.body = sequence (date :: char separator :: clock :: shapes)) (stamp : Stamp)
    {ending : List Char} (fails : (sequence shapes).rests ending = []) :
    format.value? (Writing.dated stamp separator ending) = none := by
  refine value?_of_nothing lead ?_
  rw [body, rests_dated, fails]

theorem value?_monthFirst_none (weekday : Weekday) (rest : List Char) :
    LineFormat.all[9].value? (weekday.val.toList ++ rest) = none :=
  value?_of_nothing rfl (rests_sequence_nil (rests_monthWord_weekday weekday rest) _)

theorem rests_monthWord_mailed (stamp : Stamp) (padded : Bool) (zone : ZoneSpelling)
    (rest : List Char) : monthWord.rests (Writing.mailed stamp padded zone ++ rest) = [] := by
  have digit : Avoids Char.isDigit monthWord := avoids_anyWord (by decide)
  have stops (spelling : DaySpelling) (rest : List Char) :
      Stops (!·.isDigit) (spelling.unspaced.text stamp.date.day ++ rest) :=
    stamp.stops_day rest (by simp) spelling
  refine rests_of_avoids digit fun c first => ?_
  simp only [Writing.mailed, List.append_assoc] at first
  cases padded with
  | true => simpa using stops .padded _ c first
  | false => simpa using stops .short _ c first

/-- Behind the weekday there is a comma in place of the space, or a day in place of the month. -/
theorem value?_weekdayFirst_none (weekday : Weekday) (comma : Bool) {rest : List Char}
    (noMonth : monthWord.rests rest = []) :
    LineFormat.all[10].value?
      (weekday.val.toList ++ ((if comma then [','] else []) ++ ([' '] ++ rest))) = none := by
  cases comma with
  | true => exact value?_of_lead_nil ((rests_seq (rests_weekday weekday _)).trans rfl)
  | false =>
    exact value?_of_body_nil ((rests_seq (rests_weekday weekday _)).trans (rests_space _))
      (rests_sequence_nil noMonth _)

theorem overlooked (writing : Writing) (stamp : Stamp) {tail : List Char}
    (message : IsMessage tail) :
    Overlooks (LineFormat.all.take writing.place) (writing.text stamp ++ tail) := by
  have noZulu : (sequence [offsetOrZulu]).rests tail = [] :=
    rests_offsetOrZulu_nil (message.stops_of_space (by decide)) (message.stops_of_space (by decide))
  have noOffset : (sequence [optional space, signedOffset]).rests tail = [] :=
    message.rests_offset.2
  have noFraction (shapes : List Shape) : (sequence (fraction :: shapes)).rests tail = [] :=
    rests_fraction_nil (message.stops_of_space (by decide)) shapes
  cases writing with
  | isoFractionSpaceOffset written offset colon => exact .nil
  | isoFractionOffset written spelling =>
    show Overlooks _ (Writing.dated stamp 'T' (written.text ++ spelling.text) ++ tail)
    rw [← dated_append, List.append_assoc]
    have taken := prefers_fraction written (spelling.stops_text (by decide) tail (by decide))
    have noSpace : (seq space signedOffset).rests (spelling.text ++ tail) = [] :=
      rests_seq_nil (rests_one_of_stops (spelling.stops_text (by decide) tail (by decide))) _
    refine .cons (value?_dated_none rfl rfl stamp ?_) .nil
    exact (taken.next (avoids_seq (avoids_char (by decide)))).trans noSpace
  | isoOffset spelling =>
    show Overlooks _ (Writing.dated stamp 'T' spelling.text ++ tail)
    rw [← dated_append]
    have noFraction (shapes : List Shape) :
        (sequence (fraction :: shapes)).rests (spelling.text ++ tail) = [] :=
      rests_fraction_nil (spelling.stops_text (by decide) tail (by decide)) shapes
    exact .cons (value?_dated_none rfl rfl stamp (noFraction _))
      (.cons (value?_dated_none rfl rfl stamp (noFraction _)) .nil)
  | isoFraction written =>
    show Overlooks _ (Writing.dated stamp 'T' written.text ++ tail)
    rw [← dated_append]
    have taken := prefers_fraction written (message.stops_of_space (by decide))
    -- no offset stands where the fraction does
    have noOffset : (sequence [offsetOrZulu]).rests (written.text ++ tail) = [] := by
      refine rests_offsetOrZulu_nil (Text.stops_cons ?_ _) (Text.stops_cons ?_ _) <;>
        cases written.comma <;> rfl
    refine .cons (value?_dated_none rfl rfl stamp ?_) (.cons (value?_dated_none rfl rfl stamp ?_)
      (.cons (value?_dated_none rfl rfl stamp noOffset) .nil))
    · exact (taken.next (avoids_seq (avoids_char (by decide)))).trans message.rests_offset.1
    · exact (taken.next avoids_offsetOrZulu).trans noZulu
  | iso =>
    show Overlooks _ (Writing.dated stamp 'T' [] ++ tail)
    rw [← dated_append]
    exact .cons (value?_dated_none rfl rfl stamp (noFraction _))
      (.cons (value?_dated_none rfl rfl stamp (noFraction _))
      (.cons (value?_dated_none rfl rfl stamp noZulu)
      (.cons (value?_dated_none rfl rfl stamp (noFraction _)) .nil)))
  | plainFractionOffset written spaced offset colon =>
    show Overlooks _ (Writing.dated stamp ' ' _ ++ tail)
    rw [← dated_append]
    exact overlooks_letters stamp _
  | plainFraction written =>
    show Overlooks (LineFormat.all.take 5 ++ _) (Writing.dated stamp ' ' written.text ++ tail)
    rw [← dated_append]
    have taken := prefers_fraction written (message.stops_of_space (by decide))
    have noOffset : (sequence [fraction, optional space, signedOffset]).rests
        (written.text ++ tail) = [] := (taken.next avoids_spacedOffset).trans noOffset
    exact .append (overlooks_letters stamp _)
      (.cons (value?_dated_none rfl rfl stamp noOffset) .nil)
  | plainOffset spaced offset colon =>
    show Overlooks (LineFormat.all.take 5 ++ _)
      (Writing.dated stamp ' ' (Writing.gap spaced ++ offset.text colon) ++ tail)
    rw [← dated_append]
    have noFraction (shapes : List Shape) : (sequence (fraction :: shapes)).rests
        (Writing.gap spaced ++ offset.text colon ++ tail) = [] :=
      rests_fraction_nil (offset.stops_spaced (by decide) tail (by decide) spaced colon) shapes
    exact .append (overlooks_letters stamp _)
      (.cons (value?_dated_none rfl rfl stamp (noFraction _))
      (.cons (value?_dated_none rfl rfl stamp (noFraction _)) .nil))
  | plain =>
    show Overlooks (LineFormat.all.take 5 ++ _) (Writing.dated stamp ' ' [] ++ tail)
    rw [← dated_append]
    exact .append (overlooks_letters stamp _)
      (.cons (value?_dated_none rfl rfl stamp (noFraction _))
      (.cons (value?_dated_none rfl rfl stamp (noFraction _))
      (.cons (value?_dated_none rfl rfl stamp noOffset) .nil)))
  | monthFirst spelling =>
    show Overlooks _ (Writing.yearLast stamp spelling ++ tail)
    simp only [Writing.yearLast, List.append_assoc]
    exact overlooks_dates (stamp.stops_month _ (by decide))
  | weekdayFirst weekday spelling =>
    show Overlooks (LineFormat.all.take 9 ++ _)
      (weekday.val.toList ++ [' '] ++ Writing.yearLast stamp spelling ++ tail)
    simp only [List.append_assoc]
    exact .append (overlooks_dates (stops_name weekday.property (by decide) _))
      (.cons (value?_monthFirst_none weekday _) .nil)
  | mail weekday comma padded zone =>
    show Overlooks (LineFormat.all.take 9 ++ _) (weekday.val.toList ++
      (if comma then [','] else []) ++ [' '] ++ Writing.mailed stamp padded zone ++ tail)
    simp only [List.append_assoc]
    exact .append (overlooks_dates (stops_name weekday.property (by decide) _))
      (.cons (value?_monthFirst_none weekday _) (.cons (value?_weekdayFirst_none weekday comma
        (rests_monthWord_mailed stamp padded zone tail)) .nil))

/-! ### The format of a datetime -/

theorem head?_fraction_next (written : Fraction) {next : Shape}
    (avoids : Avoids Unicode.isDigit next) {ending tail : List Char}
    (stops : Stops Unicode.isDigit (ending ++ tail))
    (behind : next.rests (ending ++ tail) = [tail]) :
    ((seq fraction next).rests (written.text ++ ending ++ tail)).head? = some tail := by
  rw [List.append_assoc, (prefers_fraction written stops).next avoids, behind]
  rfl

theorem rests_yearLast (stamp : Stamp) (spelling : DaySpelling) (tail : List Char) :
    (sequence [monthWord, space, dayOfMonth, space, clock, space, year]).rests
      (Writing.yearLast stamp spelling ++ tail) = [tail] := by
  simp only [Writing.yearLast, List.append_assoc, List.cons_append]
  rw [rests_sequence (rests_monthWord stamp _), rests_sequence (rests_space _)]
  refine (rests_dayOfMonth spelling _ _ _).trans ?_
  rw [rests_sequence (rests_clock stamp _), rests_sequence (rests_space _)]
  exact rests_year stamp tail

theorem rests_oneOrTwo (padded : Bool) (day : Nat) (rest : List Char) (next : Shape) :
    (seq (between 1 2 digit) (seq space next)).rests
      ((if padded then DaySpelling.padded else .short).text day ++ ' ' :: rest) =
        next.rests rest := by
  have run (count : Nat) (pos : 1 ≤ count) (few : count ≤ 2) :
      (seq (between 1 2 digit) (seq space next)).rests (digits count day ++ ' ' :: rest) =
        next.rests rest :=
    ((prefers_digits pos few _ (Text.stops_cons (by decide) _)).next
      (avoids_seq (avoids_char (by decide)))).trans (rests_seq (rests_space _))
  cases padded with
  | true => exact run 2 (by decide) (by decide)
  | false =>
    rw [if_neg Bool.false_ne_true, DaySpelling.text]
    split
    · exact run 1 (by decide) (by decide)
    · exact run 2 (by decide) (by decide)

theorem head?_mailed (stamp : Stamp) (padded : Bool) (zone : ZoneSpelling) {tail : List Char}
    (message : IsMessage tail) :
    ((sequence [between 1 2 digit, space, monthWord, space, year, space, clock, space,
      offsetOrName]).rests (Writing.mailed stamp padded zone ++ tail)).head? = some tail := by
  simp only [Writing.mailed, List.append_assoc, List.cons_append]
  refine (congrArg List.head? (rests_oneOrTwo padded _ _ _)).trans ?_
  rw [rests_sequence (rests_monthWord stamp _), rests_sequence (rests_space _),
    rests_sequence (rests_year stamp _), rests_sequence (rests_space _),
    rests_sequence (rests_clock stamp _), rests_sequence (rests_space _)]
  exact head?_zone zone (message.stops_of_space (by decide))

theorem captured (writing : Writing) (stamp : Stamp) {tail : List Char}
    (message : IsMessage tail) :
    writing.format.value? (writing.text stamp ++ tail) = some (writing.tidied.body stamp) := by
  -- nine formats begin with a date and a clock time, behind which there is one way to go on
  have whole (separator : Char) (shapes : List Shape) (ending : List Char) {format : LineFormat}
      (lead : format.lead = nothing)
      (body : format.body = sequence (date :: char separator :: clock :: shapes))
      (taken : ((sequence shapes).rests (ending ++ tail)).head? = some tail) :
      format.value? (Writing.dated stamp separator ending ++ tail) =
        some (format.tidying.apply (Writing.dated stamp separator ending)) := by
    refine value?_of_body lead ?_ rfl
    rw [body, ← dated_append, rests_dated, taken]
  have digits : Stops Unicode.isDigit tail := message.stops_of_space (by decide)
  rw [← tidy_body]
  cases writing with
  | isoFractionSpaceOffset written offset colon =>
    refine whole 'T' _ (written.text ++ ' ' :: offset.text colon) rfl rfl ?_
    exact head?_fraction_next written (avoids_seq (avoids_char (by decide)))
      (Text.stops_cons (by decide) _)
      ((rests_seq (rests_space _)).trans (rests_signedOffset offset colon tail))
  | isoFractionOffset written spelling =>
    refine whole 'T' _ (written.text ++ spelling.text) rfl rfl ?_
    exact head?_fraction_next written avoids_offsetOrZulu
      (spelling.stops_text (by decide) tail (by decide)) (rests_offsetOrZulu spelling tail)
  | isoOffset spelling =>
    refine whole 'T' _ spelling.text rfl rfl ?_
    exact congrArg List.head? (rests_offsetOrZulu spelling tail)
  | isoFraction written =>
    exact whole 'T' _ written.text rfl rfl (prefers_fraction written digits).head?
  | iso => exact whole 'T' [] [] rfl rfl rfl
  | plainFractionOffset written spaced offset colon =>
    refine whole ' ' _ (written.text ++ (Writing.gap spaced ++ offset.text colon)) rfl rfl ?_
    exact head?_fraction_next written avoids_spacedOffset
      (offset.stops_spaced (by decide) tail (by decide) spaced colon)
      (rests_spacedOffset spaced offset colon tail)
  | plainFraction written =>
    exact whole ' ' _ written.text rfl rfl (prefers_fraction written digits).head?
  | plainOffset spaced offset colon =>
    refine whole ' ' _ (Writing.gap spaced ++ offset.text colon) rfl rfl ?_
    exact congrArg List.head? (rests_spacedOffset spaced offset colon tail)
  | plain => exact whole ' ' [] [] rfl rfl rfl
  | monthFirst spelling =>
    exact value?_of_body rfl (congrArg List.head? (rests_yearLast stamp spelling tail)) rfl
  | weekdayFirst weekday spelling =>
    have lead : (LineFormat.weekday ++ space).rests (weekday.val.toList ++ [' '] ++
        Writing.yearLast stamp spelling ++ tail) = [Writing.yearLast stamp spelling ++ tail] := by
      simp only [List.append_assoc]
      exact (rests_seq (rests_weekday weekday _)).trans (rests_space _)
    exact value?_of_rests lead (congrArg List.head? (rests_yearLast stamp spelling tail)) rfl
  | mail weekday comma padded zone =>
    have lead : (sequence [LineFormat.weekday, optional (char ','), space]).rests
        (weekday.val.toList ++ (if comma then [','] else []) ++ [' '] ++
          Writing.mailed stamp padded zone ++ tail) =
        [Writing.mailed stamp padded zone ++ tail] := by
      simp only [List.append_assoc]
      rw [rests_sequence (rests_weekday weekday _)]
      cases comma with
      | true => exact (rests_optional rfl).trans (rests_space _)
      | false => exact (rests_optional_none (by simp) _).trans (rests_space _)
    exact value?_of_rests lead (head?_mailed stamp padded zone message) rfl

end LogQuery.Time

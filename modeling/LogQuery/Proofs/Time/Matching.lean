import LogQuery.Proofs.Time.LineFormat
import LogQuery.Proofs.Time.Tidying

/-! What the shapes of the formats leave of a line behind the parts of a datetime. -/

set_option autoImplicit false

namespace LogQuery.Time

open Text (Stops)

namespace Shape

/-! ### Shapes one behind the other -/

theorem rests_seq {first second : Shape} {text rest : List Char}
    (taken : first.rests text = [rest]) : (seq first second).rests text = second.rests rest := by
  rw [rests, taken, List.flatMap_singleton]

theorem rests_seq_nil {first : Shape} {text : List Char} (fails : first.rests text = [])
    (second : Shape) : (seq first second).rests text = [] := by
  rw [rests, fails, List.flatMap_nil]

theorem rests_sequence {shape : Shape} {text rest : List Char} (taken : shape.rests text = [rest])
    (shapes : List Shape) :
    (sequence (shape :: shapes)).rests text = (sequence shapes).rests rest := by
  cases shapes with
  | nil => exact taken
  | cons next shapes => exact rests_seq taken

theorem rests_sequence_nil {shape : Shape} {text : List Char} (fails : shape.rests text = [])
    (shapes : List Shape) : (sequence (shape :: shapes)).rests text = [] := by
  cases shapes with
  | nil => exact fails
  | cons next shapes => exact rests_seq_nil fails _

theorem rests_char (c : Char) (rest : List Char) : (char c).rests (c :: rest) = [rest] := by
  simp [char, rests]

theorem rests_of_avoids {test : Char → Bool} {shape : Shape} (avoids : Avoids test shape)
    {text : List Char} (begins : ∀ c ∈ text.head?, test c = true) : shape.rests text = [] := by
  rw [rests_eq, List.map_eq_nil_iff, List.eq_nil_iff_forall_not_mem]
  intro word member
  obtain ⟨⟨rest, rfl⟩, accepts⟩ := mem_taken.1 member
  obtain ⟨c, word, rfl, fails⟩ := avoids word accepts
  exact Bool.eq_false_iff.1 fails (begins c rfl)

theorem rests_one {test : Char → Bool} {c : Char} (passes : test c = true) (rest : List Char) :
    (one test).rests (c :: rest) = [rest] := by
  rw [rests, if_pos passes]

theorem rests_anyOf {chars : String} {c : Char} (member : chars.toList.contains c = true)
    (rest : List Char) : (anyOf chars).rests (c :: rest) = [rest] := rests_one member rest

theorem rests_one_of_stops {test : Char → Bool} {text : List Char} (stops : Stops test text) :
    (one test).rests text = [] := by
  cases text with
  | nil => rfl
  | cons c text => rw [rests, if_neg (Bool.eq_false_iff.1 (stops c rfl))]

/-- What may be there is taken if what comes next cannot begin with it. -/
theorem rests_optional {c : Char} {next : Shape} {text : List Char}
    (fails : next.rests (c :: text) = []) :
    (seq (optional (char c)) next).rests (c :: text) = next.rests text := by
  have ways : (optional (char c)).rests (c :: text) = [text, c :: text] := by
    rw [optional, rests, rests_char, rests]
    rfl
  rw [rests, ways, List.flatMap_cons, List.flatMap_singleton, fails, List.append_nil]

theorem rests_optional_none {c : Char} {text : List Char} (other : text.head? ≠ some c)
    (next : Shape) : (seq (optional (char c)) next).rests text = next.rests text := by
  have none : (char c).rests text = [] := by
    refine rests_one_of_stops fun d first => ?_
    rw [beq_eq_false_iff_ne]
    rintro rfl
    exact other first
  refine rests_seq ?_
  rw [optional, rests, none, rests]
  rfl

theorem avoids_text {test : Char → Bool} {value : String}
    (other : value.toList.head?.any (!test ·) = true) : Avoids test (text value) := by
  intro word accepts
  cases written : value.toList with
  | nil => simp [written] at other
  | cons c letters =>
    have fails : test c = false := by simpa [written] using other
    rw [text, written, List.map_cons, accepts_sequence_cons] at accepts
    exact avoids_seq (avoids_char fails) word accepts

theorem avoids_anyWord {test : Char → Bool} {words : List String}
    (others : (words.all fun word => word.toList.head?.any (!test ·)) = true) :
    Avoids test (anyWord words) := by
  induction words with
  | nil => exact avoids_one fun _ passes => by cases passes
  | cons word words ih =>
    rw [List.all_cons, Bool.and_eq_true] at others
    cases words with
    | nil => exact avoids_text others.1
    | cons next words => exact avoids_either (avoids_text others.1) (ih others.2)

/-! ### Runs -/

/-- Is this left by preference, while all else that can be left begins with a character of the
kind? -/
def Prefers (test : Char → Bool) (shape : Shape) (text rest : List Char) : Prop :=
  ∃ backs, shape.rests text = rest :: backs ∧
    ∀ back ∈ backs, ∃ c more, back = c :: more ∧ test c = true

section

variable {test : Char → Bool} {shape : Shape} {text rest : List Char}

theorem Prefers.head? (prefers : Prefers test shape text rest) :
    (shape.rests text).head? = some rest := by
  obtain ⟨backs, taken, _⟩ := prefers
  rw [taken, List.head?_cons]

theorem Prefers.after {middle : List Char} {first : Shape} (taken : first.rests text = [middle])
    (prefers : Prefers test shape middle rest) : Prefers test (seq first shape) text rest := by
  obtain ⟨backs, further, left⟩ := prefers
  exact ⟨backs, (rests_seq taken).trans further, left⟩

/-- What comes next finds all that it can after the preferred way if it cannot begin so. -/
theorem Prefers.next (prefers : Prefers test shape text rest) {next : Shape}
    (avoids : Avoids test next) : (seq shape next).rests text = next.rests rest := by
  obtain ⟨backs, taken, left⟩ := prefers
  have inside : backs.flatMap next.rests = [] := by
    refine List.flatMap_eq_nil_iff.2 fun back member => ?_
    obtain ⟨c, more, rfl, passes⟩ := left back member
    refine rests_of_avoids avoids fun d first => ?_
    obtain rfl := Option.some.inj first
    exact passes
  rw [rests, taken, List.flatMap_cons, inside, List.append_nil]

variable {word : List Char} (all : ∀ c ∈ word, test c = true)

include all

theorem rests_times : (times word.length (one test)).rests (word ++ rest) = [rest] := by
  induction word with
  | nil => rfl
  | cons c word ih =>
    rw [List.forall_mem_cons] at all
    rw [List.length_cons, times, List.cons_append, rests_seq (rests_one all.1 _), ih all.2]

theorem prefers_upTo {most : Nat} (few : word.length ≤ most) (stops : Stops test rest) :
    Prefers test (upTo most (one test)) (word ++ rest) rest := by
  induction word generalizing most with
  | nil =>
    refine ⟨[], ?_, List.forall_mem_nil _⟩
    cases most with
    | zero => rfl
    | succ most =>
      rw [List.nil_append, upTo, optional, rests, rests_seq_nil (rests_one_of_stops stops)]
      rfl
  | cons c word ih =>
    rw [List.forall_mem_cons] at all
    cases most with
    | zero => cases few
    | succ most =>
      obtain ⟨backs, taken, left⟩ := ih all.2 (Nat.le_of_succ_le_succ few)
      refine ⟨backs ++ [c :: (word ++ rest)], ?_, ?_⟩
      · rw [List.cons_append, upTo, optional, rests, rests_seq (rests_one all.1 _), taken]
        rfl
      · rw [List.forall_mem_append, List.forall_mem_singleton]
        exact ⟨left, c, _, rfl, all.1⟩

theorem prefers_between {least most : Nat} (enough : least ≤ word.length)
    (few : word.length ≤ most) (stops : Stops test rest) :
    Prefers test (between least most (one test)) (word ++ rest) rest := by
  obtain ⟨first, more, rfl, count⟩ : ∃ first more, word = first ++ more ∧ first.length = least :=
    ⟨_, _, (List.take_append_drop least word).symm, List.length_take_of_le enough⟩
  rw [List.forall_mem_append] at all
  rw [List.length_append, count] at few
  rw [between, List.append_assoc, ← count]
  exact .after (rests_times all.1) (prefers_upTo all.2 (by omega) stops)

end

end Shape

theorem Offset.contains_sign (offset : Offset) : "+-".toList.contains offset.sign = true := by
  rw [sign]
  split <;> rfl

namespace LineFormat

open Shape

/-! ### The parts -/

theorem isDigit_digits (count n : Nat) : ∀ c ∈ digits count n, Unicode.isDigit c = true :=
  fun c member => Unicode.isDigit_of_ascii c (isDigit_of_mem_digits c member)

theorem rests_space (rest : List Char) : space.rests (' ' :: rest) = [rest] := rests_char ' ' rest

theorem rests_twoDigits (n : Nat) (rest : List Char) :
    twoDigits.rests (digits 2 n ++ rest) = [rest] := rests_times (isDigit_digits 2 n)

theorem rests_clock (stamp : Stamp) (rest : List Char) :
    clock.rests (stamp.clockText ++ rest) = [rest] := by
  simp only [Stamp.clockText, List.append_assoc, List.cons_append]
  rw [clock, rests_sequence (rests_twoDigits _ _), rests_sequence (rests_char _ _),
    rests_sequence (rests_twoDigits _ _), rests_sequence (rests_char _ _)]
  exact rests_twoDigits _ _

theorem rests_year (stamp : Stamp) (rest : List Char) :
    year.rests (stamp.yearText ++ rest) = [rest] := by
  obtain ⟨n, isYear⟩ : ∃ n, n = stamp.date.year.toNat := ⟨_, rfl⟩
  have millennium : n / 10 / 10 / 10 % 10 = 1 ∨ n / 10 / 10 / 10 % 10 = 2 := by
    have lower := stamp.year_ge
    have upper := stamp.year_le
    omega
  have first : "12".toList.contains (Nat.digitChar (n / 10 / 10 / 10 % 10)) = true := by
    rcases millennium with one | two
    · rw [one]
      rfl
    · rw [two]
      rfl
  have others : ∀ c ∈ (digits 4 n).tail, Unicode.isDigit c = true :=
    fun c member => isDigit_digits 4 n c (List.mem_of_mem_tail member)
  rw [Stamp.yearText, ← isYear]
  exact (rests_seq (rests_one first _)).trans (rests_times others)

theorem rests_date (stamp : Stamp) (rest : List Char) :
    date.rests (stamp.dateText ++ rest) = [rest] := by
  simp only [Stamp.dateText, List.append_assoc, List.cons_append]
  rw [date, rests_sequence (rests_year stamp _), rests_sequence (rests_char _ _),
    rests_sequence (rests_twoDigits _ _), rests_sequence (rests_char _ _)]
  exact rests_twoDigits _ _

theorem rests_monthWord (stamp : Stamp) (rest : List Char) :
    monthWord.rests (stamp.monthText ++ rest) = [rest] := by
  obtain ⟨lower, upper⟩ := stamp.month_bounds
  rw [Stamp.monthText]
  generalize stamp.date.month = month at lower upper
  interval_cases month <;> rfl

theorem rests_weekdays : ∀ name ∈ weekdayNames, ∀ rest : List Char,
    weekday.rests (name.toList ++ rest) = [rest] ∧ monthWord.rests (name.toList ++ rest) = [] := by
  simp only [weekdayNames, List.forall_mem_cons]
  exact ⟨fun _ => ⟨rfl, rfl⟩, fun _ => ⟨rfl, rfl⟩, fun _ => ⟨rfl, rfl⟩, fun _ => ⟨rfl, rfl⟩,
    fun _ => ⟨rfl, rfl⟩, fun _ => ⟨rfl, rfl⟩, fun _ => ⟨rfl, rfl⟩, List.forall_mem_nil _⟩

theorem rests_weekday (day : Weekday) (rest : List Char) :
    weekday.rests (day.val.toList ++ rest) = [rest] :=
  (rests_weekdays day.val day.property rest).1

theorem rests_monthWord_weekday (day : Weekday) (rest : List Char) :
    monthWord.rests (day.val.toList ++ rest) = [] :=
  (rests_weekdays day.val day.property rest).2

theorem rests_signedOffset (offset : Offset) (colon : Bool) (rest : List Char) :
    signedOffset.rests (offset.text colon ++ rest) = [rest] := by
  have written : offset.text colon ++ rest = offset.sign :: (digits 2 offset.hours ++
      ((if colon then [':'] else []) ++ (digits 2 offset.minutes ++ rest))) := by
    simp [Offset.text, Offset.sign]
  rw [written, signedOffset, rests_sequence (rests_anyOf offset.contains_sign _),
    rests_sequence (rests_twoDigits _ _)]
  cases colon with
  | true => exact (rests_optional rfl).trans (rests_twoDigits _ rest)
  | false =>
    exact (rests_optional_none (head?_digits_ne Nat.two_pos (by decide) _ _) _).trans
      (rests_twoDigits _ rest)

theorem rests_offsetOrZulu (spelling : OffsetSpelling) (rest : List Char) :
    offsetOrZulu.rests (spelling.text ++ rest) = [rest] := by
  cases spelling with
  | zulu => rfl
  | numeric offset colon =>
    have taken := rests_signedOffset offset colon rest
    have letter : (char 'Z').rests (offset.text colon ++ rest) = [] :=
      rests_one_of_stops (offset.stops_sign (by decide) _)
    rw [OffsetSpelling.text, offsetOrZulu, rests, letter, taken]
    rfl

theorem rests_signedOffset_nil {text : List Char} (stops : Stops ("+-".toList.contains ·) text) :
    signedOffset.rests text = [] := rests_seq_nil (rests_one_of_stops stops) _

theorem rests_offsetOrZulu_nil {text : List Char} (zulu : Stops (· == 'Z') text)
    (sign : Stops ("+-".toList.contains ·) text) : offsetOrZulu.rests text = [] := by
  have noZulu : (char 'Z').rests text = [] := rests_one_of_stops zulu
  rw [offsetOrZulu, rests, noZulu, rests_signedOffset_nil sign]
  rfl

theorem rests_spacedOffset (spaced : Bool) (offset : Offset) (colon : Bool) (rest : List Char) :
    (seq (optional space) signedOffset).rests
      (Writing.gap spaced ++ offset.text colon ++ rest) = [rest] := by
  have taken := rests_signedOffset offset colon rest
  cases spaced with
  | true =>
    have noSign : signedOffset.rests (' ' :: (offset.text colon ++ rest)) = [] :=
      rests_signedOffset_nil (Text.stops_cons (by decide) _)
    exact (rests_optional noSign).trans taken
  | false =>
    refine (rests_optional_none (fun first => ?_) _).trans taken
    have stops : Stops (· == ' ') (offset.text colon ++ rest) := offset.stops_sign (by decide) _
    cases stops ' ' first

theorem rests_fraction_nil {text : List Char} (stops : Stops (".,".toList.contains ·) text)
    (shapes : List Shape) : (sequence (fraction :: shapes)).rests text = [] :=
  rests_sequence_nil (rests_seq_nil (rests_one_of_stops stops) _) shapes

theorem fraction_text (fraction : Fraction) :
    ∃ mark, ".,".toList.contains mark = true ∧
      fraction.text = mark :: digits fraction.count fraction.value := by
  refine ⟨_, ?_, rfl⟩
  cases fraction.comma <;> rfl

theorem prefers_digits {least most count : Nat} (enough : least ≤ count) (few : count ≤ most)
    (n : Nat) {rest : List Char} (stops : Stops Unicode.isDigit rest) :
    Prefers Unicode.isDigit (between least most digit) (digits count n ++ rest) rest :=
  prefers_between (isDigit_digits count n) (by simpa using enough) (by simpa using few) stops

theorem prefers_fraction (written : Fraction) {rest : List Char}
    (stops : Stops Unicode.isDigit rest) :
    Prefers Unicode.isDigit fraction (written.text ++ rest) rest := by
  obtain ⟨mark, isMark, text⟩ := fraction_text written
  rw [text, List.cons_append]
  exact .after (rests_anyOf isMark _)
    (prefers_digits written.count_pos written.count_le written.value stops)

theorem rests_digit (n : Nat) (rest : List Char) :
    digit.rests (digits 1 n ++ rest) = [rest] :=
  rests_one (isDigit_digits 1 n _ List.mem_cons_self) rest

theorem rests_digit_space (rest : List Char) : digit.rests (' ' :: rest) = [] :=
  rests_one_of_stops (Text.stops_cons (by decide) rest)

theorem rests_twoDigits_single (n : Nat) (rest : List Char) :
    twoDigits.rests (digits 1 n ++ ' ' :: rest) = [] :=
  (rests_seq (rests_digit n _)).trans (rests_seq_nil (rests_digit_space rest) _)

/-- A day may be taken for its first digit alone, but no space follows then. -/
theorem rests_dayOfMonth (spelling : DaySpelling) (day : Nat) (rest : List Char) (next : Shape) :
    (seq dayOfMonth (seq space next)).rests (spelling.text day ++ ' ' :: rest) =
      next.rests rest := by
  have behind : (seq space next).rests (' ' :: rest) = next.rests rest :=
    rests_seq (rests_space rest)
  have single : dayOfMonth.rests (digits 1 day ++ ' ' :: rest) = [' ' :: rest] := by
    have first : (seq (optional (char ' ')) digit).rests (digits 1 day ++ ' ' :: rest) =
        [' ' :: rest] := by
      rw [rests_optional_none (head?_digits_ne Nat.one_pos (by decide) _ _), rests_digit]
    rw [dayOfMonth, rests, rests_twoDigits_single]
    exact congrArg (· ++ []) first
  have spaced : dayOfMonth.rests (' ' :: (digits 1 day ++ ' ' :: rest)) = [' ' :: rest] := by
    have first : (seq (optional (char ' ')) digit).rests (' ' :: (digits 1 day ++ ' ' :: rest)) =
        [' ' :: rest] := by
      rw [rests_optional (rests_digit_space _), rests_digit]
    have second : twoDigits.rests (' ' :: (digits 1 day ++ ' ' :: rest)) = [] :=
      rests_seq_nil (rests_digit_space _) _
    rw [dayOfMonth, rests, second]
    exact congrArg (· ++ []) first
  -- of two digits the first may be taken alone, but then the second stands where a space must
  have double : (seq dayOfMonth (seq space next)).rests (digits 2 day ++ ' ' :: rest) =
      next.rests rest := by
    have cut : digits 2 day ++ ' ' :: rest =
        digits 1 (day / 10) ++ (digits 1 day ++ ' ' :: rest) := rfl
    have first : (seq (optional (char ' ')) digit).rests (digits 2 day ++ ' ' :: rest) =
        [digits 1 day ++ ' ' :: rest] := by
      rw [rests_optional_none (head?_digits_ne Nat.two_pos (by decide) _ _), cut, rests_digit]
    have noSpace : (seq space next).rests (digits 1 day ++ ' ' :: rest) = [] :=
      rests_seq_nil (rests_one_of_stops (stops_digits
        (fun c digit => by simpa using ne_of_isDigit digit (by decide)) Nat.one_pos _ _)) _
    have ways : dayOfMonth.rests (digits 2 day ++ ' ' :: rest) =
        [digits 1 day ++ ' ' :: rest, ' ' :: rest] := by
      rw [dayOfMonth, rests, rests_twoDigits]
      exact congrArg (· ++ [' ' :: rest]) first
    rw [rests, ways, List.flatMap_cons, List.flatMap_singleton, noSpace, behind]
    rfl
  cases spelling with
  | padded => exact double
  | short =>
    rw [DaySpelling.text]
    split
    · rw [rests_seq single, behind]
    · exact double
  | spaced =>
    rw [DaySpelling.text]
    split
    · exact (rests_seq spaced).trans behind
    · exact double

theorem head?_zone (zone : ZoneSpelling) {rest : List Char}
    (stops : Stops (fun c => 'A' ≤ c && c ≤ 'Z') rest) :
    (offsetOrName.rests (zone.text ++ rest)).head? = some rest := by
  cases zone with
  | numeric offset =>
    have digits : ∀ c ∈ digits 2 offset.hours ++ digits 2 offset.minutes,
        Unicode.isDigit c = true :=
      List.forall_mem_append.2 ⟨isDigit_digits _ _, isDigit_digits _ _⟩
    have taken : (anyOf "+-" ++ times 4 digit).rests (offset.text false ++ rest) = [rest] :=
      (rests_seq (rests_anyOf offset.contains_sign _)).trans (rests_times digits)
    rw [ZoneSpelling.text, offsetOrName, rests, taken]
    rfl
  | named zone =>
    have listed : (zoneNames.all fun zone => 1 ≤ zone.1.toList.length && zone.1.toList.length ≤ 5 &&
        zone.1.toList.all fun c => 'A' ≤ c && c ≤ 'Z') = true := by decide
    have isName := List.all_eq_true.1 listed _ zone.listed
    simp only [Bool.and_eq_true, decide_eq_true_eq] at isName
    obtain ⟨⟨enough, few⟩, letters⟩ := isName
    -- a name begins with a letter, so it is not taken for a numeric offset
    have noSign : (anyOf "+-" ++ times 4 digit).rests (zone.name.toList ++ rest) = [] := by
      obtain ⟨c, name, written⟩ := List.exists_cons_of_length_pos enough
      rw [written, List.all_cons, Bool.and_eq_true] at letters
      refine rests_seq_nil (rests_one_of_stops ?_) _
      rw [written]
      refine Text.stops_cons (Bool.eq_false_iff.2 fun sign => ?_) _
      have isSign : c = '+' ∨ c = '-' := by simpa using sign
      rcases isSign with rfl | rfl
      · exact absurd letters.1 (by decide)
      · exact absurd letters.1 (by decide)
    have taken := (prefers_between (List.all_eq_true.1 letters) enough few stops).head?
    rw [ZoneSpelling.text, offsetOrName, rests, noSign]
    exact taken

end LineFormat

end LogQuery.Time

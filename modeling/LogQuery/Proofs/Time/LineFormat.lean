import LogQuery.Proofs.Time.Foreign
import LogQuery.Time.Recognizer

/-! The line formats keep within the bytes that are looked at.

A match that takes more bytes has a foreign digit in a part that is the same in all matches of that
text, so none of them can be read.
-/

set_option autoImplicit false

namespace LogQuery.Time

namespace Shape

theorem accepts_sequence_cons {shape : Shape} {shapes : List Shape} {word : List Char} :
    (sequence (shape :: shapes)).Accepts word ↔ (seq shape (sequence shapes)).Accepts word := by
  cases shapes with
  | nil =>
    constructor
    · exact fun accepts => ⟨word, [], (List.append_nil word).symm, accepts, rfl⟩
    · rintro ⟨front, back, rfl, accepts, rfl⟩
      rwa [List.append_nil]
  | cons next shapes => exact Iff.rfl

theorem accepts_sequence_append {first second : List Shape} {word : List Char} :
    (sequence (first ++ second)).Accepts word ↔
      (seq (sequence first) (sequence second)).Accepts word := by
  induction first generalizing word with
  | nil =>
    constructor
    · exact fun accepts => ⟨[], word, rfl, rfl, accepts⟩
    · rintro ⟨front, back, rfl, rfl, accepts⟩
      exact accepts
  | cons shape first ih =>
    rw [List.cons_append, accepts_sequence_cons]
    constructor
    · rintro ⟨a, _, rfl, in_a, rest⟩
      obtain ⟨b, c, rfl, in_b, in_c⟩ := ih.1 rest
      exact ⟨a ++ b, c, (List.append_assoc ..).symm,
        accepts_sequence_cons.2 ⟨a, b, rfl, in_a, in_b⟩, in_c⟩
    · rintro ⟨_, c, rfl, in_ab, in_c⟩
      obtain ⟨a, b, rfl, in_a, in_b⟩ := accepts_sequence_cons.1 in_ab
      exact ⟨a, b ++ c, List.append_assoc .., in_a, ih.2 ⟨b, c, rfl, in_b, in_c⟩⟩

/-! ### Plain shapes -/

theorem isPlain_sequence {shapes : List Shape} (plain : ∀ shape ∈ shapes, shape.IsPlain) :
    (sequence shapes).IsPlain := by
  induction shapes with
  | nil => trivial
  | cons shape shapes ih =>
    rw [List.forall_mem_cons] at plain
    cases shapes with
    | nil => exact plain.1
    | cons next shapes => exact ⟨plain.1, ih plain.2⟩

theorem isPlain_char {c : Char} (ascii : c.toNat < 128) : (char c).IsPlain := by
  refine .inl fun d passes => ?_
  rwa [eq_of_beq passes]

theorem isPlain_anyOf {chars : String} (ascii : isAscii chars.toList = true) :
    (anyOf chars).IsPlain :=
  .inl fun d passes => toNat_lt_of_isAscii ascii (by simpa using passes)

theorem isPlain_digit : digit.IsPlain := .inr rfl

theorem isPlain_upperLetter : upperLetter.IsPlain := by
  refine .inl fun c passes => ?_
  have upper : c ≤ 'Z' := by simpa using (Bool.and_eq_true_iff.1 passes).2
  have bound : c.toNat ≤ 90 := upper
  omega

theorem isPlain_text {value : String} (ascii : isAscii value.toList = true) :
    (text value).IsPlain := by
  refine isPlain_sequence fun shape member => ?_
  obtain ⟨c, inValue, rfl⟩ := List.mem_map.1 member
  exact isPlain_char (toNat_lt_of_isAscii ascii inValue)

theorem isPlain_anyWord {words : List String}
    (ascii : (words.all fun word => isAscii word.toList) = true) : (anyWord words).IsPlain := by
  induction words with
  | nil => exact .inl fun _ passes => by simp at passes
  | cons word words ih =>
    rw [List.all_cons, Bool.and_eq_true] at ascii
    cases words with
    | nil => exact isPlain_text ascii.1
    | cons next words => exact ⟨isPlain_text ascii.1, ih ascii.2⟩

theorem isPlain_optional {shape : Shape} (plain : shape.IsPlain) : (optional shape).IsPlain :=
  ⟨plain, trivial⟩

theorem isPlain_times {shape : Shape} (plain : shape.IsPlain) (n : Nat) :
    (times n shape).IsPlain := by
  induction n with
  | zero => trivial
  | succ n ih => exact ⟨plain, ih⟩

theorem isPlain_upTo {shape : Shape} (plain : shape.IsPlain) (most : Nat) :
    (upTo most shape).IsPlain := by
  induction most with
  | zero => trivial
  | succ most ih => exact ⟨⟨plain, ih⟩, trivial⟩

theorem isPlain_between {shape : Shape} (plain : shape.IsPlain) (least most : Nat) :
    (between least most shape).IsPlain :=
  ⟨isPlain_times plain least, isPlain_upTo plain _⟩

/-! ### Runs of digits -/

theorem digits_times {n : Nat} {word : List Char} (accepts : (times n digit).Accepts word) :
    ∀ c ∈ word, Unicode.isDigit c = true := by
  induction n generalizing word with
  | zero => simp [show word = [] from accepts]
  | succ n ih =>
    obtain ⟨_, back, rfl, ⟨c, rfl, passes⟩, further⟩ := accepts
    simpa [passes] using ih further

theorem digits_upTo {most : Nat} {word : List Char} (accepts : (upTo most digit).Accepts word) :
    ∀ c ∈ word, Unicode.isDigit c = true := by
  induction most generalizing word with
  | zero => simp [show word = [] from accepts]
  | succ most ih =>
    rcases accepts with ⟨_, back, rfl, ⟨c, rfl, passes⟩, further⟩ | none_taken
    · simpa [passes] using ih further
    · simp [show word = [] from none_taken]

theorem digits_between {least most : Nat} {word : List Char}
    (accepts : (between least most digit).Accepts word) :
    ∀ c ∈ word, Unicode.isDigit c = true := by
  obtain ⟨front, back, rfl, first, second⟩ := accepts
  intro c member
  rcases List.mem_append.1 member with inFront | inBack
  · exact digits_times first c inFront
  · exact digits_upTo second c inBack

/-- Does every match begin with a character that fails the test? -/
def Avoids (test : Char → Bool) (shape : Shape) : Prop :=
  ∀ word, shape.Accepts word → ∃ c rest, word = c :: rest ∧ test c = false

theorem avoids_one {test passes : Char → Bool} (fails : ∀ c, passes c = true → test c = false) :
    Avoids test (one passes) := by
  rintro _ ⟨c, rfl, pass⟩
  exact ⟨c, [], rfl, fails c pass⟩

theorem avoids_seq {test : Char → Bool} {first second : Shape} (avoids : Avoids test first) :
    Avoids test (seq first second) := by
  rintro _ ⟨front, back, rfl, inFirst, _⟩
  obtain ⟨c, rest, rfl, fails⟩ := avoids front inFirst
  exact ⟨c, rest ++ back, rfl, fails⟩

theorem avoids_either {test : Char → Bool} {left right : Shape} (inLeft : Avoids test left)
    (inRight : Avoids test right) : Avoids test (either left right) :=
  fun word accepts => accepts.elim (inLeft word) (inRight word)

theorem avoids_char {test : Char → Bool} {c : Char} (fails : test c = false) :
    Avoids test (char c) :=
  avoids_one fun d passes => by rwa [eq_of_beq passes]

theorem avoids_anyOf {test : Char → Bool} {chars : String}
    (fails : chars.toList.any test = false) : Avoids test (anyOf chars) :=
  avoids_one fun d passes => Bool.eq_false_iff.2 <|
    List.any_eq_false.1 fails d (by simpa using passes)

theorem determines_digits {tail : Shape} (avoids : Avoids Unicode.isDigit tail)
    (least most : Nat) : Determines (between least most digit) tail :=
  determines_run Unicode.isDigit (fun _ => digits_between) avoids

theorem determines_optional {c : Char} {tail : Shape} (avoids : Avoids (· == c) tail) :
    Determines (optional (char c)) tail := by
  refine determines_run (· == c) (fun word accepts d member => ?_) avoids
  rcases accepts with ⟨e, rfl, passes⟩ | none_taken
  · rwa [List.mem_singleton.1 member]
  · simp [show word = [] from none_taken] at member

end Shape

namespace LineFormat

open Shape

/-! ### The parts of the formats -/

@[simp] theorem isPlain_space : space.IsPlain := isPlain_char (by decide)

@[simp] theorem isPlain_twoDigits : twoDigits.IsPlain := isPlain_times isPlain_digit 2

@[simp] theorem isPlain_year : year.IsPlain :=
  ⟨isPlain_anyOf (by decide), isPlain_times isPlain_digit 3⟩

@[simp] theorem isPlain_monthWord : monthWord.IsPlain := isPlain_anyWord (by decide)

@[simp] theorem isPlain_weekday : weekday.IsPlain := isPlain_anyWord (by decide)

@[simp] theorem isPlain_dayOfMonth : dayOfMonth.IsPlain :=
  ⟨⟨isPlain_optional (isPlain_char (by decide)), isPlain_digit⟩, isPlain_twoDigits⟩

@[simp] theorem isPlain_clock : clock.IsPlain := by
  have colon : (char ':').IsPlain := isPlain_char (by decide)
  exact ⟨isPlain_twoDigits, colon, isPlain_twoDigits, colon, isPlain_twoDigits⟩

@[simp] theorem isPlain_date : date.IsPlain := by
  have dash : (char '-').IsPlain := isPlain_char (by decide)
  exact ⟨isPlain_year, dash, isPlain_twoDigits, dash, isPlain_twoDigits⟩

@[simp] theorem isPlain_fraction : fraction.IsPlain :=
  ⟨isPlain_anyOf (by decide), isPlain_between isPlain_digit 1 9⟩

@[simp] theorem isPlain_threeDigitFraction : threeDigitFraction.IsPlain :=
  ⟨isPlain_char (by decide), isPlain_times isPlain_digit 3⟩

@[simp] theorem isPlain_signedOffset : signedOffset.IsPlain :=
  ⟨isPlain_anyOf (by decide), isPlain_twoDigits, isPlain_optional (isPlain_char (by decide)),
    isPlain_twoDigits⟩

@[simp] theorem isPlain_offsetOrZulu : offsetOrZulu.IsPlain :=
  ⟨isPlain_char (by decide), isPlain_signedOffset⟩

@[simp] theorem isPlain_offsetOrName : offsetOrName.IsPlain :=
  ⟨⟨isPlain_anyOf (by decide), isPlain_times isPlain_digit 4⟩,
    isPlain_between isPlain_upperLetter 1 5⟩

theorem avoids_signedOffset : Avoids Unicode.isDigit signedOffset :=
  avoids_seq (avoids_anyOf (by decide))

theorem avoids_offsetOrZulu : Avoids Unicode.isDigit offsetOrZulu :=
  avoids_either (avoids_char (by decide)) avoids_signedOffset

theorem avoids_spacedOffset : Avoids Unicode.isDigit (seq (optional space) signedOffset) := by
  rintro _ ⟨_, back, rfl, spaced | rfl, accepts⟩
  · obtain ⟨c, rfl, passes⟩ := spaced
    rw [eq_of_beq passes]
    exact ⟨' ', back, rfl, by decide⟩
  · exact avoids_signedOffset back accepts

theorem determines_fraction {tail : Shape} (avoids : Avoids Unicode.isDigit tail) :
    Determines fraction tail :=
  determines_seq (determines_fixed (n := 1) rfl _) (determines_digits avoids 1 9)

theorem determines_date_fraction {separator tail : Shape} {n : Nat}
    (fixed : separator.fixedLength? = some n) (avoids : Avoids Unicode.isDigit tail) :
    Determines (sequence [date, separator, clock, fraction]) tail :=
  determines_seq (determines_fixed (n := 10) rfl _)
    (determines_seq (determines_fixed fixed _)
      (determines_seq (determines_fixed (n := 8) rfl _) (determines_fraction avoids)))

theorem determines_weekday {next tail : Shape} (inner : Determines next tail)
    (avoids : Avoids (· == ',') next) :
    Determines (seq weekday (seq (optional (char ',')) next)) tail :=
  determines_seq (determines_fixed (n := 3) (by decide) _)
    (determines_seq (determines_optional (avoids_seq avoids)) inner)

/-! ### All formats -/

/-- What recognition relies on: what stands before a datetime is ASCII, what the fields ask for
too, and a match that goes beyond the bytes that are looked at cannot be read. -/
structure IsSteady (format : LineFormat) : Prop where
  lead : ∀ word, format.lead.Accepts word → ∀ c ∈ word, c.toNat < 128
  foreign : ∀ text word word', (seq format.lead format.body).Accepts word →
    (seq format.lead format.body).Accepts word' → word <+: text → word' <+: text →
    Recognizer.prefixLength < Text.weightOf word → ∃ c ∈ word', IsForeign c
  fields : format.fields.all Field.isAscii = true

theorem IsSteady.of_parts {format : LineFormat} (lead body front tail : List Shape)
    (isLead : format.lead = sequence lead) (isBody : format.body = sequence body)
    (parts : lead ++ body = front ++ tail) (plain : ∀ shape ∈ front ++ tail, shape.IsPlain)
    (determines : Determines (sequence front) (sequence tail))
    (bound : (sequence front).maxLength + (sequence tail).width ≤ Recognizer.prefixLength)
    (leadAscii : format.lead.rejects foreignDigit = true)
    (fields : format.fields.all Field.isAscii = true) : IsSteady format where
  lead word accepts := by
    refine ascii_of_rejects ?_ leadAscii accepts
    rw [isLead]
    exact isPlain_sequence fun shape member => plain shape (parts ▸ List.mem_append_left _ member)
  foreign text word word' accepts accepts' begins begins' heavy := by
    rw [isLead, isBody, ← accepts_sequence_append, parts, accepts_sequence_append]
      at accepts accepts'
    exact foreign_of_heavy determines
      (isPlain_sequence fun shape member => plain shape (List.mem_append_left _ member))
      (isPlain_sequence fun shape member => plain shape (List.mem_append_right _ member))
      bound accepts accepts' begins begins' heavy
  fields := fields

theorem fields_isAscii : ∀ format ∈ all, format.fields.all Field.isAscii = true := by
  decide

theorem lead_rejects : ∀ format ∈ all, format.lead.rejects foreignDigit = true := by
  decide

theorem isSteady {format : LineFormat} (member : format ∈ all) : IsSteady format := by
  have fields := fields_isAscii format member
  have leadAscii := lead_rejects format member
  have dateClock (separator tail : Shape) {n : Nat} (fixed : separator.fixedLength? = some n) :
      Determines (sequence [date, separator, clock]) tail :=
    determines_seq (determines_fixed (n := 10) rfl _)
      (determines_seq (determines_fixed fixed _) (determines_fixed (n := 8) rfl _))
  have whole (tail : Shape) : Determines (sequence []) tail := determines_fixed (n := 0) rfl tail
  have comma : (optional (char ',')).IsPlain := isPlain_optional (isPlain_char (by decide))
  have optionalSpace : (optional space).IsPlain := isPlain_optional isPlain_space
  have letterT : (char 'T').IsPlain := isPlain_char (by decide)
  have oneOrTwo : (between 1 2 digit).IsPlain := isPlain_between isPlain_digit 1 2
  simp only [all, List.mem_cons, List.not_mem_nil, or_false] at member
  -- for each format: what stands before the datetime, the datetime, and where both together are
  -- cut into a part that is the same in all matches and a rest that is short enough
  rcases member with rfl | rfl | rfl | rfl | rfl | rfl | rfl | rfl | rfl | rfl | rfl | rfl | rfl |
    rfl | rfl | rfl | rfl
  · exact .of_parts [] [date, char 'T', clock, fraction, space, signedOffset]
      [date, char 'T', clock, fraction] [space, signedOffset] rfl rfl rfl (by simp [*])
      (determines_date_fraction rfl (avoids_seq (avoids_char (by decide)))) (by decide) leadAscii
      fields
  · exact .of_parts [] [date, char 'T', clock, fraction, offsetOrZulu]
      [date, char 'T', clock, fraction] [offsetOrZulu] rfl rfl rfl (by simp [*])
      (determines_date_fraction rfl avoids_offsetOrZulu) (by decide) leadAscii fields
  · exact .of_parts [] [date, char 'T', clock, offsetOrZulu]
      [date, char 'T', clock] [offsetOrZulu] rfl rfl rfl (by simp [*])
      (dateClock _ _ rfl) (by decide) leadAscii fields
  · exact .of_parts [] [date, char 'T', clock, fraction]
      [date, char 'T', clock] [fraction] rfl rfl rfl (by simp [*])
      (dateClock _ _ rfl) (by decide) leadAscii fields
  · exact .of_parts [] [date, char 'T', clock]
      [] [date, char 'T', clock] rfl rfl rfl (by simp [*]) (whole _) (by decide) leadAscii fields
  · exact .of_parts [] [date, space, clock, fraction, optional space, signedOffset]
      [date, space, clock, fraction] [optional space, signedOffset] rfl rfl rfl (by simp [*])
      (determines_date_fraction rfl avoids_spacedOffset) (by decide) leadAscii fields
  · exact .of_parts [] [date, space, clock, fraction]
      [date, space, clock] [fraction] rfl rfl rfl (by simp [*])
      (dateClock _ _ rfl) (by decide) leadAscii fields
  · exact .of_parts [] [date, space, clock, optional space, signedOffset]
      [date, space, clock] [optional space, signedOffset] rfl rfl rfl (by simp [*])
      (dateClock _ _ rfl) (by decide) leadAscii fields
  · exact .of_parts [] [date, space, clock]
      [] [date, space, clock] rfl rfl rfl (by simp [*]) (whole _) (by decide) leadAscii fields
  · exact .of_parts [] [monthWord, space, dayOfMonth, space, clock, space, year]
      [] [monthWord, space, dayOfMonth, space, clock, space, year] rfl rfl rfl (by simp [*])
      (whole _) (by decide) leadAscii fields
  · exact .of_parts [weekday, space] [monthWord, space, dayOfMonth, space, clock, space, year]
      [] [weekday, space, monthWord, space, dayOfMonth, space, clock, space, year] rfl rfl rfl
      (by simp [*]) (whole _) (by decide) leadAscii fields
  · exact .of_parts [weekday, optional (char ','), space]
      [between 1 2 digit, space, monthWord, space, year, space, clock, space, offsetOrName]
      [weekday, optional (char ','), space, between 1 2 digit, space, monthWord, space, year]
      [space, clock, space, offsetOrName] rfl rfl rfl (by simp [*])
      (determines_weekday (determines_seq (determines_fixed (n := 1) rfl _)
        (determines_seq (determines_digits (avoids_seq (avoids_seq (avoids_char (by decide)))) 1 2)
          (determines_fixed (n := 9) (by decide) _))) (avoids_seq (avoids_char (by decide))))
      (by decide) leadAscii fields
  · exact .of_parts [weekday, optional (char ','), space]
      [twoDigits, space, monthWord, space, clock, threeDigitFraction, space, offsetOrName]
      [weekday, optional (char ','), space, twoDigits, space, monthWord, space, clock]
      [threeDigitFraction, space, offsetOrName] rfl rfl rfl (by simp [*])
      (determines_weekday (determines_fixed (n := 16) (by decide) _)
        (avoids_seq (avoids_char (by decide)))) (by decide) leadAscii fields
  · exact .of_parts [weekday, optional (char ','), space]
      [twoDigits, space, monthWord, space, clock, space, offsetOrName]
      [] [weekday, optional (char ','), space, twoDigits, space, monthWord, space, clock, space,
        offsetOrName] rfl rfl rfl (by simp [*]) (whole _) (by decide) leadAscii fields
  · exact .of_parts [weekday, space]
      [monthWord, space, dayOfMonth, space, clock, threeDigitFraction]
      [] [weekday, space, monthWord, space, dayOfMonth, space, clock, threeDigitFraction] rfl rfl
      rfl (by simp [*]) (whole _) (by decide) leadAscii fields
  · exact .of_parts [weekday, space] [monthWord, space, dayOfMonth, space, clock]
      [] [weekday, space, monthWord, space, dayOfMonth, space, clock] rfl rfl rfl (by simp [*])
      (whole _) (by decide) leadAscii fields
  · exact .of_parts [] [monthWord, space, dayOfMonth, space, clock]
      [] [monthWord, space, dayOfMonth, space, clock] rfl rfl rfl (by simp [*]) (whole _)
      (by decide) leadAscii fields

end LineFormat

end LogQuery.Time

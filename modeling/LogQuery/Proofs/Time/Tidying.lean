import LogQuery.Proofs.Time.Foreign
import LogQuery.Proofs.Time.Reading

/-! What tidying makes of a written datetime: the same datetime, written as its fields can be read.

An offset is looked for by its place from the end of the text alone, so the point of each lemma is
which character stands in that place.
-/

set_option autoImplicit false

namespace LogQuery.Time

open Text (Stops)

/-! ### The last bytes -/

theorem byteCount_append (front back : List Char) :
    byteCount (front ++ back) = byteCount front + byteCount back := by
  have shift (start : Nat) : back.foldl (fun count c => count + c.utf8Size) start =
      start + byteCount back := by
    rw [byteCount]
    induction back generalizing start with
    | nil => rfl
    | cons c back ih =>
      simp only [List.foldl_cons, Nat.zero_add]
      rw [ih, ih c.utf8Size, Nat.add_assoc]
  rw [byteCount, List.foldl_append]
  exact shift _

theorem byteCount_cons (c : Char) (text : List Char) :
    byteCount (c :: text) = c.utf8Size + byteCount text := by
  have single : byteCount [c] = c.utf8Size := Nat.zero_add _
  rw [← single, ← byteCount_append]
  rfl

theorem splitBytes?_append (front back : List Char) :
    splitBytes? (byteCount front) (front ++ back) = some (front, back) := by
  induction front with
  | nil => simp [byteCount, splitBytes?]
  | cons c front ih =>
    have pos : 0 < c.utf8Size := Char.utf8Size_pos c
    obtain ⟨bytes, counted⟩ : ∃ bytes, byteCount (c :: front) = bytes + 1 :=
      ⟨byteCount (c :: front) - 1, by rw [byteCount_cons]; omega⟩
    rw [counted, List.cons_append, splitBytes?]
    rw [byteCount_cons] at counted
    have left : bytes + 1 - c.utf8Size = byteCount front := by omega
    rw [if_pos (by omega), left, ih]
    rfl

theorem byteCount_ascii {text : List Char} (ascii : isAscii text = true) :
    byteCount text = text.length := by
  induction text with
  | nil => rfl
  | cons c text ih =>
    rw [isAscii, List.all_cons, Bool.and_eq_true, decide_eq_true_eq] at ascii
    have one : c.utf8Size = 1 := Char.utf8Size_eq_one_iff.2 (Nat.le_of_lt_succ ascii.1)
    rw [byteCount_cons, one, ih ascii.2, List.length_cons, Nat.add_comm]

theorem splitLastBytes?_append {front back : List Char} (ascii : isAscii back = true) :
    splitLastBytes? back.length (front ++ back) = some (front, back) := by
  have bytes : byteCount (front ++ back) - back.length = byteCount front := by
    rw [byteCount_append, byteCount_ascii ascii, Nat.add_sub_cancel]
  have fits : back.length ≤ byteCount (front ++ back) := by
    rw [byteCount_append, byteCount_ascii ascii]
    exact Nat.le_add_left _ _
  rw [splitLastBytes?, if_pos fits, bytes, splitBytes?_append]

theorem ascii_of_isDigit {c : Char} (digit : c.isDigit = true) : c.toNat < 128 := by
  have upper : c.toNat ≤ 57 := (Char.isDigit_iff_toNat.1 digit).2
  omega

theorem splitBytes?_ascii {front : List Char} (ascii : isAscii front = true) (back : List Char) :
    splitBytes? front.length (front ++ back) = some (front, back) := by
  rw [← byteCount_ascii ascii, splitBytes?_append]

/-! ### Offsets at the end -/

theorem isSign_of_isDigit {c : Char} (digit : c.isDigit = true) : isSign c = false := by
  rw [isSign, Bool.or_eq_false_iff, beq_eq_false_iff_ne, beq_eq_false_iff_ne]
  exact ⟨ne_of_isDigit digit (by decide), ne_of_isDigit digit (by decide)⟩

theorem isAscii_of_isDigit {text : List Char} (digits : ∀ c ∈ text, c.isDigit = true) :
    isAscii text = true :=
  List.all_eq_true.2 fun c member => decide_eq_true (ascii_of_isDigit (digits c member))

theorem isAscii_append (front back : List Char) :
    isAscii (front ++ back) = (isAscii front && isAscii back) := List.all_append

theorem isAscii_digits (count n : Nat) : isAscii (digits count n) = true :=
  isAscii_of_isDigit isDigit_of_mem_digits

namespace Offset

variable (offset : Offset)

theorem isSign_sign : isSign offset.sign = true := by
  rw [sign]
  split <;> decide

theorem isAscii_text (colon : Bool) : isAscii (offset.text colon) = true := by
  have sign : isAscii [offset.sign] = true := by
    rw [Offset.sign]
    split <;> decide
  have between : isAscii (if colon then [':'] else []) = true := by
    cases colon <;> decide
  have written : offset.text colon = [offset.sign] ++ digits 2 offset.hours ++
    (if colon then [':'] else []) ++ digits 2 offset.minutes := rfl
  simp only [written, isAscii_append, isAscii_digits, sign, between, Bool.and_self]

end Offset

theorem dropOffsetColon_text (front : List Char) (offset : Offset) :
    dropOffsetColon (front ++ offset.text true) = front ++ offset.text false := by
  have ascii := offset.isAscii_text true
  have last : splitLastBytes? 6 (front ++ offset.text true) = some (front, offset.text true) :=
    splitLastBytes?_append ascii
  have written : offset.text true =
      offset.sign :: (digits 2 offset.hours ++ ':' :: digits 2 offset.minutes) := rfl
  rw [written, ← List.cons_append, isAscii_append, Bool.and_eq_true] at ascii
  have hours : splitBytes? 3
      (offset.sign :: (digits 2 offset.hours ++ ':' :: digits 2 offset.minutes)) =
      some (offset.sign :: digits 2 offset.hours, ':' :: digits 2 offset.minutes) :=
    splitBytes?_ascii ascii.1 _
  rw [written] at last ⊢
  simp [dropOffsetColon, last, hours, offset.isSign_sign]
  rfl

theorem dropOffsetSpace_text (front : List Char) (offset : Offset) :
    dropOffsetSpace (front ++ ' ' :: offset.text false) = front ++ offset.text false := by
  have ascii : isAscii (' ' :: offset.text false) = true := offset.isAscii_text false
  have last : splitLastBytes? 6 (front ++ ' ' :: offset.text false) =
      some (front, ' ' :: offset.text false) := splitLastBytes?_append ascii
  have written : offset.text false =
      offset.sign :: (digits 2 offset.hours ++ digits 2 offset.minutes) := rfl
  rw [written] at last ⊢
  simp [dropOffsetSpace, last, offset.isSign_sign]

/-- Nothing is dropped where the sixth character from the end is no sign. -/
theorem dropOffsetColon_of_stops (front : List Char) {last : List Char} (six : last.length = 6)
    (ascii : isAscii last = true) (stops : Stops isSign last) :
    dropOffsetColon (front ++ last) = front ++ last := by
  cases last with
  | nil => cases six
  | cons c rest =>
    have taken : splitLastBytes? 6 (front ++ c :: rest) = some (front, c :: rest) :=
      six ▸ splitLastBytes?_append ascii
    have other : isSign c = false := stops c rfl
    simp only [dropOffsetColon, taken]
    split
    · next same _ =>
      obtain ⟨rfl, _⟩ := List.cons.inj same
      simp [other]
    · rfl

theorem dropOffsetSpace_of_stops (front : List Char) {last : List Char} (six : last.length = 6)
    (ascii : isAscii last = true) (other : last.head? ≠ some ' ') :
    dropOffsetSpace (front ++ last) = front ++ last := by
  cases last with
  | nil => cases six
  | cons c rest =>
    have taken : splitLastBytes? 6 (front ++ c :: rest) = some (front, c :: rest) :=
      six ▸ splitLastBytes?_append ascii
    simp only [dropOffsetSpace, taken]
    split
    · next same =>
      simp only [Option.some.injEq, Prod.mk.injEq, List.cons.injEq] at same
      exact absurd (congrArg some same.2.1) other
    · rfl

theorem spellOutZulu_zulu (front : List Char) :
    spellOutZulu (front ++ ['Z']) = front ++ Offset.utc.text false := by
  rw [spellOutZulu, List.getLast?_concat]
  simp
  rfl

/-! ### Offsets behind a digit -/

def EndsInDigit (text : List Char) : Prop := ∃ front c, text = front ++ [c] ∧ c.isDigit = true

theorem endsInDigit_digits (front : List Char) {count : Nat} (pos : 0 < count) (n : Nat) :
    EndsInDigit (front ++ digits count n) := by
  obtain ⟨fewer, rfl⟩ := Nat.exists_eq_succ_of_ne_zero (Nat.ne_of_gt pos)
  refine ⟨front ++ digits fewer (n / 10), Nat.digitChar (n % 10), ?_, ?_⟩
  · rw [digits, List.append_assoc]
  · rw [Nat.isDigit_digitChar]
    exact decide_eq_true (Nat.mod_lt n (by decide))

/-- What is done about an offset. -/
def settle (text : List Char) : List Char :=
  dropOffsetSpace (dropOffsetColon (spellOutZulu text))

theorem spellOutZulu_of_digit {text : List Char} (ends : EndsInDigit text) :
    spellOutZulu text = text := by
  obtain ⟨front, c, rfl, digit⟩ := ends
  rw [spellOutZulu, List.getLast?_concat]
  split
  · next same => exact absurd (Option.some.inj same) (ne_of_isDigit digit (by decide))
  · rfl

/-- Only a sign in front of the minutes and the hours counts, not what stands before it. -/
theorem dropOffsetColon_plain (front : List Char) {c : Char} (ascii : c.toNat < 128)
    (other : isSign c = false) (offset : Offset) :
    dropOffsetColon (front ++ c :: offset.text false) = front ++ c :: offset.text false := by
  refine dropOffsetColon_of_stops front rfl ?_ (Text.stops_cons other _)
  rw [isAscii, List.all_cons, decide_eq_true ascii]
  exact offset.isAscii_text false

theorem dropOffsetSpace_plain (front : List Char) {c : Char} (digit : c.isDigit = true)
    (offset : Offset) :
    dropOffsetSpace (front ++ c :: offset.text false) = front ++ c :: offset.text false := by
  have other : some c ≠ some ' ' := fun same =>
    ne_of_isDigit digit (by decide) (Option.some.inj same)
  refine dropOffsetSpace_of_stops front rfl ?_ other
  rw [isAscii, List.all_cons, decide_eq_true (ascii_of_isDigit digit)]
  exact offset.isAscii_text false

theorem settle_offset {front : List Char} (ends : EndsInDigit front) (spaced : Bool)
    (offset : Offset) (colon : Bool) :
    settle (front ++ (Writing.gap spaced ++ offset.text colon)) = front ++ offset.text false := by
  obtain ⟨before, c, rfl, digit⟩ := ends
  have noZulu : EndsInDigit (before ++ [c] ++ (Writing.gap spaced ++ offset.text colon)) := by
    rw [Offset.text, ← List.append_assoc, ← List.append_assoc]
    exact endsInDigit_digits _ Nat.two_pos _
  -- the sixth character from the end is the sign, the space in front of it, or the digit
  have noColon : dropOffsetColon (before ++ [c] ++ (Writing.gap spaced ++ offset.text colon)) =
      before ++ [c] ++ (Writing.gap spaced ++ offset.text false) := by
    cases colon with
    | true => rw [← List.append_assoc, dropOffsetColon_text, List.append_assoc]
    | false =>
      cases spaced with
      | true => exact dropOffsetColon_plain (before ++ [c]) (by decide) (by decide) offset
      | false =>
        rw [List.append_assoc]
        exact dropOffsetColon_plain before (ascii_of_isDigit digit) (isSign_of_isDigit digit) offset
  have noSpace : dropOffsetSpace (before ++ [c] ++ (Writing.gap spaced ++ offset.text false)) =
      before ++ [c] ++ offset.text false := by
    cases spaced with
    | true => exact dropOffsetSpace_text (before ++ [c]) offset
    | false =>
      rw [List.append_assoc, List.append_assoc]
      exact dropOffsetSpace_plain before digit offset
  rw [settle, spellOutZulu_of_digit noZulu, noColon, noSpace]

theorem settle_zulu {front : List Char} (ends : EndsInDigit front) :
    settle (front ++ ['Z']) = front ++ Offset.utc.text false := by
  have settled := settle_offset ends false .utc false
  have noZulu : EndsInDigit (front ++ Offset.utc.text false) :=
    ⟨front ++ ['+', '0', '0', '0'], '0', by rw [List.append_assoc]; rfl, by decide⟩
  rw [Writing.gap, if_neg Bool.false_ne_true, List.nil_append, settle,
    spellOutZulu_of_digit noZulu] at settled
  rw [settle, spellOutZulu_zulu, settled]

theorem settle_plain (front : List Char) {word : List Char} (long : 6 ≤ word.length)
    (ends : EndsInDigit (front ++ word))
    (plain : ∀ c ∈ word, c.isDigit = true ∨ c = ':' ∨ c = '.') :
    settle (front ++ word) = front ++ word := by
  -- no more than the last six characters are looked at
  obtain ⟨start, last, rfl, six⟩ : ∃ start last, word = start ++ last ∧ last.length = 6 :=
    ⟨_, _, (List.take_append_drop (word.length - 6) word).symm, by rw [List.length_drop]; omega⟩
  have plain := (List.forall_mem_append.1 plain).2
  have ascii : isAscii last = true := by
    refine List.all_eq_true.2 fun c member => decide_eq_true ?_
    rcases plain c member with digit | rfl | rfl
    · exact ascii_of_isDigit digit
    · decide
    · decide
  have noSign : Stops isSign last := by
    intro c first
    rcases plain c (List.mem_of_head? first) with digit | rfl | rfl
    · exact isSign_of_isDigit digit
    · decide
    · decide
  have noSpace : last.head? ≠ some ' ' := by
    intro first
    rcases plain ' ' (List.mem_of_head? first) with digit | same | same
    · exact absurd digit (by decide)
    · exact absurd same (by decide)
    · exact absurd same (by decide)
  rw [← List.append_assoc] at ends ⊢
  rw [settle, spellOutZulu_of_digit ends, dropOffsetColon_of_stops _ six ascii noSign,
    dropOffsetSpace_of_stops _ six ascii noSpace]

/-! ### Fractions -/

def point (c : Char) : Char := if c == ',' then '.' else c

theorem map_point {word : List Char} (free : ∀ c ∈ word, c ≠ ',') : word.map point = word := by
  have kept : ∀ c ∈ word, point c = id c := fun c member => if_neg (by simpa using free c member)
  rw [List.map_congr_left kept, List.map_id]

theorem map_point_fraction (fraction : Fraction) :
    fraction.text.map point = fraction.pointed.text := by
  have digits := map_point (forall_digits (fun c digit => ne_of_isDigit digit (by decide))
    fraction.count fraction.value)
  rw [Fraction.text, List.map_cons, digits]
  cases fraction.comma <;> rfl

theorem dated_append (stamp : Stamp) (separator : Char) (start rest : List Char) :
    Writing.dated stamp separator (start ++ rest) =
      Writing.dated stamp separator start ++ rest := by
  simp [Writing.dated]

theorem map_point_dated (stamp : Stamp) {separator : Char} (other : separator ≠ ',')
    (ending : List Char) :
    (Writing.dated stamp separator ending).map point =
      Writing.dated stamp separator (ending.map point) := by
  have digit (c : Char) (digit : c.isDigit = true) : c ≠ ',' := ne_of_isDigit digit (by decide)
  have date := map_point (stamp.forall_date digit (by decide))
  have clock := map_point (stamp.forall_clock digit (by decide))
  have kept : point separator = separator := if_neg (by simpa using other)
  simp [Writing.dated, date, clock, kept]

theorem endsInDigit_dated (stamp : Stamp) (separator : Char) :
    EndsInDigit (Writing.dated stamp separator []) := by
  rw [Writing.dated, List.append_nil, Stamp.clockText]
  have ends := endsInDigit_digits (stamp.dateText ++
    separator :: (digits 2 stamp.hour ++ ':' :: digits 2 stamp.minute ++ [':'])) Nat.two_pos
    stamp.second
  simpa using ends

theorem endsInDigit_fraction (stamp : Stamp) (separator : Char) (fraction : Fraction) :
    EndsInDigit (Writing.dated stamp separator fraction.pointed.text) := by
  have ends := endsInDigit_digits (Writing.dated stamp separator ['.']) fraction.count_pos
    fraction.value
  rwa [← dated_append] at ends

/-! ### Dates and clock times -/

/-- Is this the offset, in a way that becomes plain behind a digit? -/
structure SettlesTo (rest : List Char) (offset : Offset) : Prop where
  pointed : rest.map point = rest
  settled {front : List Char} : EndsInDigit front →
    settle (front ++ rest) = front ++ offset.text false

theorem settlesTo_offset (spaced : Bool) (offset : Offset) (colon : Bool) :
    SettlesTo (Writing.gap spaced ++ offset.text colon) offset where
  pointed := by
    refine map_point (List.forall_mem_append.2 ⟨?_, ?_⟩)
    · cases spaced <;> simp [Writing.gap]
    · exact offset.forall_text (fun c digit => ne_of_isDigit digit (by decide)) (by decide)
        (by decide) colon
  settled ends := settle_offset ends spaced offset colon

theorem settlesTo_spelling (spelling : OffsetSpelling) :
    SettlesTo spelling.text spelling.offset := by
  cases spelling with
  | zulu => exact ⟨rfl, settle_zulu⟩
  | numeric offset colon => exact settlesTo_offset false offset colon

section

variable (stamp : Stamp) {separator : Char} (other : separator ≠ ',')

include other

theorem apply_ending {start pointed rest : List Char} {offset : Offset}
    (isPointed : start.map point = pointed)
    (ends : EndsInDigit (Writing.dated stamp separator pointed)) (settles : SettlesTo rest offset) :
    Tidying.fractionAndOffset.apply (Writing.dated stamp separator (start ++ rest)) =
      Writing.dated stamp separator (pointed ++ offset.text false) := by
  show settle ((Writing.dated stamp separator (start ++ rest)).map point) = _
  rw [map_point_dated stamp other, List.map_append, isPointed, settles.pointed, dated_append,
    settles.settled ends, dated_append]

theorem apply_offset {rest : List Char} {offset : Offset} (settles : SettlesTo rest offset) :
    Tidying.fractionAndOffset.apply (Writing.dated stamp separator rest) =
      Writing.dated stamp separator (offset.text false) := by
  have tidied := apply_ending stamp other List.map_nil (endsInDigit_dated stamp separator) settles
  rwa [List.nil_append, List.nil_append] at tidied

theorem apply_fraction_offset (fraction : Fraction) {rest : List Char} {offset : Offset}
    (settles : SettlesTo rest offset) :
    Tidying.fractionAndOffset.apply (Writing.dated stamp separator (fraction.text ++ rest)) =
      Writing.dated stamp separator (fraction.pointed.text ++ offset.text false) :=
  apply_ending stamp other (map_point_fraction fraction)
    (endsInDigit_fraction stamp separator fraction) settles

theorem apply_fraction (fraction : Fraction) :
    Tidying.fractionAndOffset.apply (Writing.dated stamp separator fraction.text) =
      Writing.dated stamp separator fraction.pointed.text := by
  have ends := endsInDigit_fraction stamp separator fraction
  -- a short fraction leaves a part of the clock time among the last six characters
  have cut : Writing.dated stamp separator fraction.pointed.text =
      (stamp.dateText ++ [separator]) ++ (stamp.clockText ++ fraction.pointed.text) := by
    simp [Writing.dated]
  have long : 6 ≤ (stamp.clockText ++ fraction.pointed.text).length := by
    simp [Stamp.clockText]
    omega
  show settle ((Writing.dated stamp separator fraction.text).map point) = _
  rw [map_point_dated stamp other, map_point_fraction, cut]
  rw [cut] at ends
  refine settle_plain _ long ends (List.forall_mem_append.2 ⟨?_, List.forall_mem_cons.2 ⟨?_, ?_⟩⟩)
  · exact stamp.forall_clock (fun _ => .inl) (.inr (.inl rfl))
  · exact .inr (.inr rfl)
  · exact forall_digits (fun _ => .inl) _ _

end

/-! ### Blanks -/

theorem collapseBlanks_word {word : List Char} (filled : ∀ c ∈ word, Unicode.isBlank c = false)
    (rest : List Char) : collapseBlanks (word ++ rest) = word ++ collapseBlanks rest := by
  induction word with
  | nil => rfl
  | cons c word ih =>
    rw [List.forall_mem_cons] at filled
    rw [List.cons_append, collapseBlanks.eq_def]
    simp [filled.1, ih filled.2]

theorem collapseBlanks_space {c : Char} (filled : Unicode.isBlank c = false) (rest : List Char) :
    collapseBlanks (' ' :: c :: rest) = ' ' :: collapseBlanks (c :: rest) := by
  have blank : Unicode.isBlank ' ' = true := by decide
  rw [collapseBlanks.eq_def]
  simp [blank, filled]

theorem collapseBlanks_spaces (rest : List Char) :
    collapseBlanks (' ' :: ' ' :: rest) = collapseBlanks (' ' :: rest) := by
  have blank : Unicode.isBlank ' ' = true := by decide
  rw [collapseBlanks.eq_def]
  simp [blank]

theorem collapseBlanks_next {word : List Char} (filled : ∀ c ∈ word, Unicode.isBlank c = false)
    (nonempty : word ≠ []) (rest : List Char) :
    collapseBlanks (' ' :: (word ++ rest)) = ' ' :: (word ++ collapseBlanks rest) := by
  cases word with
  | nil => exact absurd rfl nonempty
  | cons c word =>
    have first := filled c List.mem_cons_self
    rw [List.cons_append, collapseBlanks_space first, ← List.cons_append,
      collapseBlanks_word filled]

theorem apply_spaces (stamp : Stamp) (spelling : DaySpelling) :
    Tidying.spaces.apply (Writing.yearLast stamp spelling) =
      Writing.yearLast stamp spelling.unspaced := by
  have filled (c : Char) (digit : c.isDigit = true) : Unicode.isBlank c = false :=
    not_isBlank_of_isDigit digit
  have year : collapseBlanks (' ' :: stamp.yearText) = ' ' :: stamp.yearText := by
    have alone := collapseBlanks_next stamp.filled_year (digits_ne_nil (by decide) _) []
    rwa [List.append_nil, collapseBlanks, List.append_nil] at alone
  have behind : collapseBlanks (' ' :: (stamp.clockText ++ ' ' :: stamp.yearText)) =
      ' ' :: (stamp.clockText ++ ' ' :: stamp.yearText) := by
    rw [collapseBlanks_next stamp.filled_clock (by simp [Stamp.clockText]), year]
  simp only [Tidying.apply, Writing.yearLast, List.append_assoc, List.cons_append]
  -- what stands behind the day is the same on both sides
  generalize ' ' :: (stamp.clockText ++ ' ' :: stamp.yearText) = rest at *
  have day (count : Nat) (pos : 0 < count) :
      collapseBlanks (' ' :: (digits count stamp.date.day ++ rest)) =
        ' ' :: (digits count stamp.date.day ++ rest) := by
    rw [collapseBlanks_next (forall_digits filled count _) (digits_ne_nil pos _), behind]
  rw [collapseBlanks_word stamp.filled_month, List.append_cancel_left_eq]
  cases spelling with
  | padded => exact day 2 Nat.two_pos
  | short =>
    simp only [DaySpelling.unspaced, DaySpelling.text]
    split
    · exact day 1 Nat.one_pos
    · exact day 2 Nat.two_pos
  | spaced =>
    simp only [DaySpelling.unspaced, DaySpelling.text]
    split
    · exact (collapseBlanks_spaces _).trans (day 1 Nat.one_pos)
    · exact day 2 Nat.two_pos

/-! ### Zones -/

theorem splitLastSpace?_append (front : List Char) {word : List Char}
    (free : ∀ c ∈ word, c ≠ ' ') : splitLastSpace? (front ++ ' ' :: word) = some (front, word) := by
  have reversed : (front ++ ' ' :: word).reverse = word.reverse ++ ' ' :: front.reverse := by simp
  have inside : ∀ c ∈ word.reverse, (c != ' ') = true := fun c member => by
    simpa using free c (List.mem_reverse.1 member)
  have stops : Stops (· != ' ') (' ' :: front.reverse) := Text.stops_cons (by decide) _
  rw [splitLastSpace?, reversed, List.span_eq_takeWhile_dropWhile,
    Text.takeWhile_stops inside stops, Text.dropWhile_stops inside stops]
  simp

theorem zoneOffset?_text (offset : Offset) : zoneOffset? (offset.text false) = none := by
  have letters : (zoneNames.all fun zone => !(zone.1.toList.head?.any isSign)) = true := by decide
  rw [zoneOffset?, Option.map_eq_none_iff, List.find?_eq_none]
  intro zone listed same
  have letter := List.all_eq_true.1 letters zone listed
  have sign : (offset.text false).head?.any isSign = true := offset.isSign_sign
  rw [eq_of_beq same, sign] at letter
  cases letter

theorem zoneOffset?_name (zone : NamedZone) :
    zoneOffset? zone.name.toList = some (zone.offset.text false) := by
  have distinct : (zoneNames.all fun zone =>
      zoneOffset? zone.1.toList == some zone.2.toList) = true := by decide
  have found := eq_of_beq (List.all_eq_true.1 distinct _ zone.listed)
  rwa [String.toList_ofList] at found

theorem apply_zoneName (stamp : Stamp) (padded : Bool) (zone : ZoneSpelling) :
    Tidying.zoneName.apply (Writing.mailed stamp padded zone) =
      Writing.mailed stamp padded (.numeric zone.offset) := by
  have digit (c : Char) (digit : c.isDigit = true) : c ≠ ',' := ne_of_isDigit digit (by decide)
  have month : ∀ c ∈ stamp.monthText, c ≠ ',' := fun c member => by
    simpa using @Stamp.forall_month stamp (fun c => c != ',') (by decide) c member
  have clock := stamp.forall_clock digit (by decide)
  have noComma : ∀ c ∈ Writing.mailed stamp padded zone, c ≠ ',' := by
    simp only [Writing.mailed, List.forall_mem_append, List.forall_mem_cons]
    exact ⟨⟨⟨⟨DaySpelling.forall_text digit _ _ (by decide), by decide, month⟩, by decide,
      forall_digits digit _ _⟩, by decide, clock⟩, by decide,
      fun c member => (zone.forall_text c member).1⟩
  have plain : (Writing.mailed stamp padded zone).filter (· != ',') =
      Writing.mailed stamp padded zone :=
    List.filter_eq_self.2 fun c member => bne_iff_ne.2 (noComma c member)
  have split : splitLastSpace? (Writing.mailed stamp padded zone) = some (_, zone.text) :=
    splitLastSpace?_append _ fun c member => (zone.forall_text c member).2
  simp only [Tidying.apply, plain, split]
  cases zone with
  | numeric offset => simp only [ZoneSpelling.text, zoneOffset?_text, ZoneSpelling.offset]
  | named zone =>
    simp only [ZoneSpelling.text, zoneOffset?_name, ZoneSpelling.offset, Writing.mailed]

theorem tidy_body (writing : Writing) (stamp : Stamp) :
    writing.format.tidying.apply (writing.body stamp) = writing.tidied.body stamp := by
  have letter : 'T' ≠ ',' := by decide
  have space : ' ' ≠ ',' := by decide
  cases writing with
  | isoFractionSpaceOffset fraction offset colon =>
    exact apply_fraction_offset stamp letter fraction (settlesTo_offset true offset colon)
  | isoFractionOffset fraction spelling =>
    exact apply_fraction_offset stamp letter fraction (settlesTo_spelling spelling)
  | isoOffset spelling => exact apply_offset stamp letter (settlesTo_spelling spelling)
  | isoFraction fraction => exact apply_fraction stamp letter fraction
  | iso => rfl
  | plainFractionOffset fraction spaced offset colon =>
    exact apply_fraction_offset stamp space fraction (settlesTo_offset spaced offset colon)
  | plainFraction fraction => exact apply_fraction stamp space fraction
  | plainOffset spaced offset colon =>
    exact apply_offset stamp space (settlesTo_offset spaced offset colon)
  | plain => rfl
  | monthFirst spelling => exact apply_spaces stamp spelling
  | weekdayFirst weekday spelling => exact apply_spaces stamp spelling
  | mail weekday comma padded zone => exact apply_zoneName stamp padded zone

end LogQuery.Time

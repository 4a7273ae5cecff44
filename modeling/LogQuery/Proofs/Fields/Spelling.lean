import Mathlib.Data.List.TakeDrop
import LogQuery.Fields
import LogQuery.Proofs.Text.Numeral
import LogQuery.Proofs.Text.Outcome
import LogQuery.Proofs.Text.Split
import LogQuery.Proofs.Text.Trim

/-! Reading a selection of fields undoes the writing of it.

A range is written as one number, as two with a minus sign between them, or with the number on one
side of the sign left out, where it is the first field or the open end. Whether a text is such an
item is decided by its first minus sign, as no number holds one. No other text is read.
-/

set_option autoImplicit false

namespace LogQuery

open Text (Stops stops_cons exists_trim trim_visible trim_surrounded trim_trim trim_trimStart
  trim_trimEnd readWord? wordLimit bind_eq_ok_iff map_eq_ok_iff mapM_eq_ok_iff)
open Unicode (isBlank trim trimStart trimEnd)

namespace FieldRange

/-! ## Writings -/

/-- Is this a writing of the number? A plus sign and zeros may stand in front of it, and blanks
around it all. -/
inductive WritesNumber (n : Nat) : List Char → Prop where
  | intro {before sign after : List Char} (zeros : Nat) : (∀ c ∈ before, isBlank c = true) →
      sign = [] ∨ sign = ['+'] → (∀ c ∈ after, isBlank c = true) →
      WritesNumber n (before ++ (sign ++ (List.replicate zeros '0' ++ Nat.toDigits 10 n) ++ after))

inductive Writes (range : FieldRange) : List Char → Prop where
  | single {number : List Char} : range.last = range.first → WritesNumber range.first number →
      Writes range number
  | between {first last : List Char} : WritesNumber range.first first →
      WritesNumber range.last last → Writes range (first ++ '-' :: last)
  | onward {first gap : List Char} : WritesNumber range.first first → range.last = openEnd →
      (∀ c ∈ gap, isBlank c = true) → Writes range (first ++ '-' :: gap)
  | upTo {gap last : List Char} : (∀ c ∈ gap, isBlank c = true) → range.first = 1 →
      WritesNumber range.last last → Writes range (gap ++ '-' :: last)

/-! ## Numbers -/

theorem lt_wordLimit_iff {n : Nat} : n < wordLimit ↔ n ≤ openEnd := by
  have : wordLimit = openEnd + 1 := rfl
  omega

theorem readWord?_eq_some_iff {word : List Char} {n : Nat} :
    readWord? word = some n ↔ n < wordLimit ∧ ∃ sign zeros, (sign = [] ∨ sign = ['+']) ∧
      word = sign ++ (List.replicate zeros '0' ++ Nat.toDigits 10 n) := by
  have numeral (digits : List Char) : Text.readDigits? digits = some n ↔
      ∃ zeros, digits = List.replicate zeros '0' ++ Nat.toDigits 10 n := by
    rw [Text.readDigits?_eq_some_iff]
    constructor
    · rintro ⟨some_digit, all, rfl⟩
      exact Text.exists_zeros some_digit all
    · rintro ⟨zeros, rfl⟩
      refine ⟨by simp, ?_, ?_⟩
      · rw [List.forall_mem_append]
        refine ⟨fun c member => ?_, Text.isDigit_of_mem_toDigits⟩
        rw [List.eq_of_mem_replicate member]
        rfl
      · rw [Nat.ofDigitChars_append, Nat.ofDigitChars_replicate_zero, Nat.mul_zero,
          Nat.ofDigitChars_ten_toDigits]
  unfold readWord?
  rw [Option.filter_eq_some_iff, decide_eq_true_iff, and_comm, numeral]
  refine and_congr_right fun _ => ?_
  split
  · next rest =>
    constructor
    · rintro ⟨zeros, rfl⟩
      exact ⟨['+'], zeros, .inr rfl, rfl⟩
    · rintro ⟨sign, zeros, rfl | rfl, same⟩
      · -- a numeral does not begin with the sign
        obtain ⟨_, all, _⟩ := Text.readDigits?_eq_some_iff.1 ((numeral _).2 ⟨zeros, same⟩)
        cases all '+' List.mem_cons_self
      · exact ⟨zeros, (List.cons.inj same).2⟩
  · next no_sign =>
    constructor
    · rintro ⟨zeros, rfl⟩
      exact ⟨[], zeros, .inl rfl, rfl⟩
    · rintro ⟨sign, zeros, rfl | rfl, same⟩
      · exact ⟨zeros, same⟩
      · exact absurd same (no_sign _)

theorem visible_numeral {sign : List Char} (isSign : sign = [] ∨ sign = ['+']) (zeros n : Nat) :
    let word := sign ++ (List.replicate zeros '0' ++ Nat.toDigits 10 n)
    word ≠ [] ∧ ∀ c ∈ word, isBlank c = false ∧ c ≠ '-' ∧ c ≠ ',' := by
  refine ⟨by simp, ?_⟩
  have digit {c : Char} (digit : c.isDigit = true) : isBlank c = false ∧ c ≠ '-' ∧ c ≠ ',' := by
    refine ⟨Bool.eq_false_iff.2 fun blank => ?_, ?_, ?_⟩
    · exact absurd digit (Bool.eq_false_iff.1 (Text.isDigit_blank blank))
    · rintro rfl
      cases digit
    · rintro rfl
      cases digit
  simp only [List.forall_mem_append]
  refine ⟨?_, fun c member => ?_, fun c member => digit (Text.isDigit_of_mem_toDigits c member)⟩
  · rcases isSign with rfl | rfl
    · rintro c ⟨⟩
    · exact List.forall_mem_singleton.2 ⟨by decide, by decide, by decide⟩
  · exact digit (List.eq_of_mem_replicate member ▸ rfl)

theorem writesNumber_iff {n : Nat} {text : List Char} :
    WritesNumber n text ↔ ∃ sign zeros, (sign = [] ∨ sign = ['+']) ∧
      trim text = sign ++ (List.replicate zeros '0' ++ Nat.toDigits 10 n) := by
  constructor
  · rintro ⟨zeros, blank, isSign, blankAfter⟩
    refine ⟨_, zeros, isSign, ?_⟩
    obtain ⟨_, visible⟩ := visible_numeral isSign zeros n
    rw [trim_surrounded blank _ blankAfter]
    refine Text.trim_of_stops (fun c first => ?_) fun c last => ?_
    · exact (visible c (List.mem_of_head? first)).1
    · exact (visible c (List.mem_reverse.1 (List.mem_of_head? last))).1
  · rintro ⟨sign, zeros, isSign, word⟩
    obtain ⟨before, after, blank, blankAfter, cut⟩ := exists_trim text
    rw [cut, word]
    exact .intro zeros blank isSign blankAfter

theorem WritesNumber.trim_ne_nil {n : Nat} {text : List Char} (written : WritesNumber n text) :
    trim text ≠ [] := by
  obtain ⟨sign, zeros, isSign, word⟩ := writesNumber_iff.1 written
  rw [word]
  exact (visible_numeral isSign zeros n).1

theorem WritesNumber.not_mem {n : Nat} {text : List Char} (written : WritesNumber n text) :
    '-' ∉ text ∧ ',' ∉ text := by
  obtain ⟨zeros, blank, isSign, blankAfter⟩ := written
  obtain ⟨_, visible⟩ := visible_numeral isSign zeros n
  simp only [List.mem_append] at visible ⊢
  constructor
  · rintro (inFront | inside | behind)
    · cases blank _ inFront
    · exact (visible _ inside).2.1 rfl
    · cases blankAfter _ behind
  · rintro (inFront | inside | behind)
    · cases blank _ inFront
    · exact (visible _ inside).2.2 rfl
    · cases blankAfter _ behind

theorem parseNumber_eq_ok_iff {number item : List Char} {n : Nat} :
    parseNumber number item = .ok n ↔ WritesNumber n number ∧ 1 ≤ n ∧ n ≤ openEnd := by
  have read := @readWord?_eq_some_iff (trim number) n
  rw [← writesNumber_iff, lt_wordLimit_iff] at read
  rw [parseNumber]
  constructor
  · intro parsed
    split at parsed
    · cases parsed
    · cases parsed
    · next m nonzero found =>
      cases parsed
      obtain ⟨small, written⟩ := read.1 found
      exact ⟨written, Nat.pos_of_ne_zero nonzero, small⟩
  · rintro ⟨written, pos, small⟩
    rw [read.2 ⟨small, written⟩]
    split
    · next absent => cases absent
    · next zero =>
      cases zero
      cases pos
    · next found =>
      cases found
      rfl

/-! ## Items -/

variable {range : FieldRange} {item front back : List Char}

theorem ofBounds?_eq_some_iff {first last : Nat} :
    ofBounds? first last = some range ↔ first = range.first ∧ last = range.last := by
  rw [ofBounds?]
  constructor
  · intro found
    split at found
    · cases found
      exact ⟨rfl, rfl⟩
    · cases found
  · rintro ⟨rfl, rfl⟩
    exact dif_pos ⟨range.first_pos, range.first_le_last, range.last_le⟩

theorem parseItem_eq_ok_iff_bounds :
    parseItem item = .ok range ↔
      trim item ≠ [] ∧ parseBounds (trim item) = .ok (range.first, range.last) := by
  unfold parseItem
  dsimp only
  cases trim item with
  | nil => exact ⟨by rintro ⟨⟩, fun ⟨nonempty, _⟩ => absurd rfl nonempty⟩
  | cons c rest =>
    refine Iff.trans ?_ (and_iff_right (List.cons_ne_nil c rest)).symm
    refine bind_eq_ok_iff.trans ⟨?_, fun read => ⟨_, read, ?_⟩⟩
    · rintro ⟨⟨first, last⟩, read, ends⟩
      dsimp only at ends
      split at ends
      · next made =>
        cases ends
        obtain ⟨rfl, rfl⟩ := ofBounds?_eq_some_iff.1 made
        exact read
      · cases ends
    · dsimp only
      rw [ofBounds?_eq_some_iff.2 ⟨rfl, rfl⟩]
      rfl

theorem parseItem_plain (free : '-' ∉ item) :
    parseItem item = .ok range ↔ range.last = range.first ∧ WritesNumber range.first item := by
  obtain ⟨before, after, _, _, cut⟩ := exists_trim item
  have all : ∀ c ∈ trim item, (c != '-') = true := by
    intro c member
    rw [bne_iff_ne]
    rintro rfl
    apply free
    rw [cut]
    simp [member]
  -- without a minus sign all of the item stands in front
  have span : (trim item).span (· != '-') = (trim item, []) := by
    rw [List.span_eq_takeWhile_dropWhile]
    have stops := Text.stops_nil (· != '-')
    have front := Text.takeWhile_stops all stops
    have back := Text.dropWhile_stops all stops
    rw [List.append_nil] at front back
    rw [front, back]
  have same {n : Nat} : WritesNumber n (trim item) ↔ WritesNumber n item := by
    rw [writesNumber_iff, writesNumber_iff, trim_trim]
  have bounds : parseBounds (trim item) = .ok (range.first, range.last) ↔
      range.last = range.first ∧ WritesNumber range.first item := by
    rw [parseBounds, span]
    simp only [map_eq_ok_iff, parseNumber_eq_ok_iff, same, Prod.mk.injEq]
    constructor
    · rintro ⟨n, ⟨written, _⟩, first, last⟩
      exact ⟨last.symm.trans first, first ▸ written⟩
    · rintro ⟨single, written⟩
      have upper := range.last_le
      exact ⟨range.first, ⟨written, range.first_pos, by omega⟩, rfl, single.symm⟩
  rw [parseItem_eq_ok_iff_bounds, bounds]
  exact and_iff_right_of_imp fun ⟨_, written⟩ => written.trim_ne_nil

theorem parseBounds_cut (free : '-' ∉ front) {first last : Nat} :
    parseBounds (front ++ '-' :: back) = .ok (first, last) ↔ (front ≠ [] ∨ back ≠ []) ∧
      (if front = [] then first = 1
        else parseNumber front (front ++ '-' :: back) = .ok first) ∧
      (if back = [] then last = openEnd
        else parseNumber back (front ++ '-' :: back) = .ok last) := by
  have span : (front ++ '-' :: back).span (· != '-') = (front, '-' :: back) := by
    have all : ∀ c ∈ front, (c != '-') = true := fun c member =>
      bne_iff_ne.2 fun same => free (same ▸ member)
    have stops : Stops (· != '-') ('-' :: back) := stops_cons (by decide) back
    rw [List.span_eq_takeWhile_dropWhile, Text.takeWhile_stops all stops,
      Text.dropWhile_stops all stops]
  rw [parseBounds, span]
  generalize front ++ '-' :: back = item
  cases front with
  | nil =>
    cases back with
    | nil => simp
    | cons d back => simp [map_eq_ok_iff, @eq_comm _ 1 first, and_comm]
  | cons c front =>
    cases back with
    | nil => simp [map_eq_ok_iff, @eq_comm _ openEnd last]
    | cons d back => simp [bind_eq_ok_iff, pure, Except.pure]

def WritesBound (default n : Nat) (text : List Char) : Prop :=
  WritesNumber n text ∨ (∀ c ∈ text, isBlank c = true) ∧ n = default

theorem bound_trimmed {default n : Nat} {text trimmed item : List Char}
    (same : trim trimmed = trim text) (none_left : trimmed = [] ↔ ∀ c ∈ text, isBlank c = true)
    (bounds : 1 ≤ n ∧ n ≤ openEnd) :
    (if trimmed = [] then n = default else parseNumber trimmed item = .ok n) ↔
      WritesBound default n text := by
  have number : WritesNumber n trimmed ↔ WritesNumber n text := by
    rw [writesNumber_iff, writesNumber_iff, same]
  rw [WritesBound, ← none_left, parseNumber_eq_ok_iff, number]
  split
  · next empty =>
    have blank := Text.trim_blank (none_left.1 empty)
    constructor
    · exact fun isDefault => .inr ⟨empty, isDefault⟩
    · rintro (written | ⟨_, isDefault⟩)
      · exact absurd blank written.trim_ne_nil
      · exact isDefault
  · next nonempty =>
    constructor
    · exact fun ⟨written, _⟩ => .inl written
    · rintro (written | ⟨empty, _⟩)
      · exact ⟨written, bounds⟩
      · exact absurd empty nonempty

/-- On each side of its first minus sign an item has a number, or nothing on one of the sides. -/
theorem parseItem_cut (free : '-' ∉ front) :
    parseItem (front ++ '-' :: back) = .ok range ↔
      ¬ ((∀ c ∈ front, isBlank c = true) ∧ ∀ c ∈ back, isBlank c = true) ∧
        WritesBound 1 range.first front ∧ WritesBound openEnd range.last back := by
  have freeStart : '-' ∉ trimStart front := fun member =>
    free ((List.dropWhile_sublist _).mem member)
  have visible : isBlank '-' = false := by decide
  have order := range.first_le_last
  have nonempty : trim (front ++ '-' :: back) ≠ [] := by
    rw [trim_visible visible]
    simp
  rw [parseItem_eq_ok_iff_bounds, and_iff_right nonempty, trim_visible visible,
    parseBounds_cut freeStart, bound_trimmed (trim_trimStart front) Text.trimStart_eq_nil_iff
      ⟨range.first_pos, order.trans range.last_le⟩,
    bound_trimmed (trim_trimEnd back) Text.trimEnd_eq_nil_iff
      ⟨range.first_pos.trans order, range.last_le⟩,
    ← Text.trimStart_eq_nil_iff, ← Text.trimEnd_eq_nil_iff, not_and_or]

theorem parseItem_eq_ok_iff : parseItem item = .ok range ↔ range.Writes item := by
  constructor
  · intro parsed
    by_cases free : '-' ∉ item
    · obtain ⟨single, written⟩ := (parseItem_plain free).1 parsed
      exact .single single written
    · obtain ⟨front, back, rfl, freeFront⟩ := List.eq_append_cons_of_mem (not_not.1 free)
      obtain ⟨some_number, first | ⟨blank, isFirst⟩, last | ⟨blankBack, isOpen⟩⟩ :=
        (parseItem_cut freeFront).1 parsed
      · exact .between first last
      · exact .onward first isOpen blankBack
      · exact .upTo blank isFirst last
      · exact absurd ⟨blank, blankBack⟩ some_number
  · intro writes
    cases writes with
    | single single written => exact (parseItem_plain written.not_mem.1).2 ⟨single, written⟩
    | between first last =>
      refine (parseItem_cut first.not_mem.1).2 ⟨fun blank => ?_, .inl first, .inl last⟩
      exact first.trim_ne_nil (Text.trim_blank blank.1)
    | onward first isOpen blank =>
      refine (parseItem_cut first.not_mem.1).2 ⟨fun blank => ?_, .inl first, .inr ⟨blank, isOpen⟩⟩
      exact first.trim_ne_nil (Text.trim_blank blank.1)
    | upTo blank isFirst last =>
      have free : '-' ∉ _ := fun member => by cases blank _ member
      refine (parseItem_cut free).2 ⟨fun blank => ?_, .inr ⟨blank, isFirst⟩, .inl last⟩
      exact last.trim_ne_nil (Text.trim_blank blank.2)

theorem Writes.not_mem_comma (writes : range.Writes item) : ',' ∉ item := by
  have gap_free {gap : List Char} (blank : ∀ c ∈ gap, isBlank c = true) : ',' ∉ gap :=
    fun member => by cases blank _ member
  have cut_free {front back : List Char} (freeFront : ',' ∉ front) (freeBack : ',' ∉ back) :
      ',' ∉ front ++ '-' :: back := by
    rw [List.mem_append, List.mem_cons, not_or, not_or]
    exact ⟨freeFront, by decide, freeBack⟩
  cases writes with
  | single _ written => exact written.not_mem.2
  | between first last => exact cut_free first.not_mem.2 last.not_mem.2
  | onward first _ blank => exact cut_free first.not_mem.2 (gap_free blank)
  | upTo blank _ last => exact cut_free (gap_free blank) last.not_mem.2

theorem writesNumber_toString (n : Nat) : WritesNumber n (toString n).toList := by
  have written : WritesNumber n ([] ++ ([] ++ (List.replicate 0 '0' ++ Nat.toDigits 10 n) ++ [])) :=
    .intro 0 (by simp) (.inl rfl) (by simp)
  rw [Nat.toString_eq_repr, Nat.toList_repr]
  simpa using written

theorem writes_text (range : FieldRange) : range.Writes range.text.toList := by
  have first := writesNumber_toString range.first
  rw [text]
  split
  · next single =>
    have single : range.first = range.last := by simpa using single
    exact .single single.symm first
  · split
    · next isOpen =>
      have isOpen : range.last = openEnd := by simpa using isOpen
      have cut : s!"{range.first}-".toList = (toString range.first).toList ++ ['-'] :=
        String.toList_append
      rw [cut]
      exact .onward first isOpen (by simp)
    · have cut : s!"{range.first}-{range.last}".toList =
          (toString range.first).toList ++ '-' :: (toString range.last).toList := by
        rw [String.toList_append, String.toList_append, List.append_assoc]
        rfl
      rw [cut]
      exact .between first (writesNumber_toString range.last)

end FieldRange

/-! ## Selections -/

namespace Selection

/-- Is this a writing of the selection? Its ranges are written in their order, with a comma between
any two. -/
def Writes (selection : Selection) (spec : String) : Prop :=
  ∃ items : List String, items ≠ [] ∧ spec = ",".intercalate items ∧
    List.Forall₂ (fun range item => range.Writes item.toList) selection items

def text (selection : Selection) : String := ",".intercalate (selection.map FieldRange.text)

variable {selection : Selection} {spec : String}

theorem writes_iff : selection.Writes spec ↔
    List.Forall₂ (fun range item => FieldRange.Writes range item) selection
      (Text.splitAt ',' spec.toList) := by
  have comma : ",".toList = [','] := rfl
  constructor
  · rintro ⟨items, nonempty, rfl, writes⟩
    have free : ∀ item ∈ items, ',' ∉ item.toList := by
      clear nonempty
      induction writes with
      | nil => rintro _ ⟨⟩
      | cons written _ ih => exact List.forall_mem_cons.2 ⟨written.not_mem_comma, ih⟩
    rw [Text.splitAt_intercalate comma nonempty free, List.forall₂_map_right_iff]
    exact writes
  · intro writes
    obtain ⟨items, nonempty, free, rfl⟩ := Text.exists_intercalate comma spec
    rw [Text.splitAt_intercalate comma nonempty free, List.forall₂_map_right_iff] at writes
    exact ⟨items, nonempty, rfl, writes⟩

theorem parse_eq_ok_iff_writes (nonblank : trim spec.toList ≠ []) :
    parse spec = .ok selection ↔ selection.Writes spec := by
  rw [parse, if_neg (by simpa using nonblank), mapM_eq_ok_iff, writes_iff]
  simp only [FieldRange.parseItem_eq_ok_iff]

/-- A blank text would be a single item, and no item is blank. -/
theorem Writes.nonblank (writes : selection.Writes spec) : trim spec.toList ≠ [] := by
  intro nothing
  have blank : ∀ c ∈ spec.toList, isBlank c = true := by
    obtain ⟨before, after, blank, blankAfter, cut⟩ := exists_trim spec.toList
    rw [cut, nothing]
    exact List.forall_mem_append.2 ⟨blank, blankAfter⟩
  have free : ',' ∉ spec.toList := fun member => by cases blank _ member
  rw [writes_iff, Text.splitAt_of_not_mem free] at writes
  obtain ⟨range, _, written, _, _⟩ := List.forall₂_cons_right_iff.1 writes
  have read := FieldRange.parseItem_eq_ok_iff.2 written
  exact (FieldRange.parseItem_eq_ok_iff_bounds.1 read).1 nothing

/-- Every writing of a selection is read as that selection, its own text among them. Any other text
that is not blank is refused. -/
theorem parse_undoes_writing :
    (∀ (selection : Selection) (spec : String), selection.Writes spec →
      parse spec = .ok selection) ∧
    (∀ selection : Selection, selection ≠ [] → parse selection.text = .ok selection) ∧
    ∀ spec : String, trim spec.toList ≠ [] → (∀ selection : Selection, ¬ selection.Writes spec) →
      ∃ error, parse spec = .error error := by
  have undoes (selection : Selection) (spec : String) (writes : selection.Writes spec) :
      parse spec = .ok selection := (parse_eq_ok_iff_writes writes.nonblank).2 writes
  refine ⟨undoes, fun selection nonempty => undoes _ _ ?_, fun spec nonblank unwritten => ?_⟩
  · refine ⟨_, mt List.map_eq_nil_iff.1 nonempty, rfl, ?_⟩
    rw [List.forall₂_map_right_iff]
    exact List.forall₂_same.2 fun range _ => range.writes_text
  · cases read : parse spec with
    | error error => exact ⟨error, rfl⟩
    | ok selection => exact absurd ((parse_eq_ok_iff_writes nonblank).1 read) (unwritten selection)

def twoRanges : Selection :=
  [⟨2, 4, by decide, by decide, by decide⟩,
    ⟨9, openEnd, by decide, by decide, Nat.le_refl openEnd⟩]

theorem parse_twoRanges :
    twoRanges.Writes " +02 -4 ,9- " ∧ parse " +02 -4 ,9- " = .ok twoRanges ∧
      twoRanges.text = "2-4,9-" ∧ parse "2-4,9-" = .ok twoRanges ∧
      (∀ selection : Selection, ¬ selection.Writes "1,,2") ∧
      ∃ error, parse "1,,2" = .error error := by
  obtain ⟨undoes, text, refuses⟩ := parse_undoes_writing
  have space : ∀ c ∈ [' '], isBlank c = true := List.forall_mem_singleton.2 rfl
  have nothing : ∀ c ∈ [], isBlank c = true := List.forall_mem_nil _
  have two : FieldRange.WritesNumber 2 " +02 ".toList := .intro 1 space (.inr rfl) space
  have four : FieldRange.WritesNumber 4 "4 ".toList := .intro 0 nothing (.inl rfl) space
  have nine : FieldRange.WritesNumber 9 "9".toList := .intro 0 nothing (.inl rfl) nothing
  have between : FieldRange.Writes ⟨2, 4, by decide, by decide, by decide⟩
    (" +02 ".toList ++ '-' :: "4 ".toList) := .between two four
  have onward : FieldRange.Writes ⟨9, openEnd, by decide, by decide, by decide⟩
    ("9".toList ++ '-' :: [' ']) := .onward nine rfl space
  have writes : twoRanges.Writes " +02 -4 ,9- " :=
    ⟨[" +02 -4 ", "9- "], List.cons_ne_nil _ _, rfl, .cons between (.cons onward .nil)⟩
  have unwritten (selection : Selection) : ¬ selection.Writes "1,,2" := fun writes => by
    cases undoes selection _ writes
  exact ⟨writes, undoes _ _ writes, rfl, text twoRanges (by decide), unwritten,
    refuses "1,,2" (by decide) unwritten⟩

end Selection

end LogQuery

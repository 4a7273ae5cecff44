import LogQuery.Proofs.Columns.Grouping
import LogQuery.Proofs.Json.EmptyObject
import LogQuery.Proofs.Text.Split
import LogQuery.Proofs.Text.Trim
import LogQuery.Report.Basic

/-! Lines without quotes, split and joined by spaces, are split into the same columns again.

Such a line is taken for JSON only if it is the empty object, which has no columns. The joined
columns are one only if the line was one, as they differ from it in separators outside brackets
alone. -/

set_option autoImplicit false

namespace LogQuery.Columns

/-! ## Lines that are an empty object -/

def Blanks (text : List Char) : Prop := ∀ c ∈ text, Unicode.isBlank c = true

def IsEmptyObject (text : List Char) : Prop :=
  ∃ before gap after, Blanks before ∧ Gap gap ∧ Blanks after ∧
    text = before ++ '{' :: (gap ++ '}' :: after)

theorem isSpace_eq (c : Char) : Json.isSpace c = isSeparator c := by
  simp only [Json.isSpace, isSeparator]
  cases c == ' ' <;> cases c == '\n' <;> cases c == '\t' <;> rfl

theorem isBlank_of_isSeparator {c : Char} (separator : isSeparator c = true) :
    Unicode.isBlank c = true := by
  simp only [isSeparator, Bool.or_eq_true, beq_iff_eq] at separator
  rcases separator with ((rfl | rfl) | rfl) | rfl <;> rfl

theorem Gap.blanks {gap : List Char} (separators : Gap gap) : Blanks gap :=
  fun c member => isBlank_of_isSeparator (separators c member)

theorem trim_braces {before gap after : List Char} (blanksBefore : Blanks before)
    (blanksAfter : Blanks after) :
    Unicode.trim (before ++ '{' :: (gap ++ '}' :: after)) = '{' :: (gap ++ ['}']) := by
  have whole : before ++ '{' :: (gap ++ '}' :: after) =
      before ++ ('{' :: (gap ++ ['}']) ++ after) := by simp
  have reversed : ('{' :: (gap ++ ['}'])).reverse = '}' :: (gap.reverse ++ ['{']) := by simp
  rw [whole, Text.trim_surrounded blanksBefore _ blanksAfter]
  refine Text.trim_of_stops (Text.stops_cons rfl _) ?_
  rw [reversed]
  exact Text.stops_cons rfl _

theorem ofObject?_eq_none {line : String} (plain : Unquoted line.toList)
    (other : ¬ IsEmptyObject line.toList) : ofObject? line = none := by
  obtain ⟨before, after, blanksBefore, blanksAfter, cut⟩ := Text.exists_trim line.toList
  have unquoted : '"' ∉ Unicode.trim line.toList := by
    intro member
    have quoted : '"' ∈ line.toList := by
      rw [cut]
      exact List.mem_append_right _ (List.mem_append_left _ member)
    cases plain _ quoted
  unfold ofObject?
  split
  · next members parsed =>
    obtain ⟨_, lead, gap, trail, spacesLead, spaces, spacesTrail, text⟩ :=
      (Json.parse?_object_iff unquoted members).1 parsed
    have separators {text : List Char} (spaces : Json.Spaces text) : Gap text :=
      fun c member => (isSpace_eq c).symm.trans (spaces c member)
    refine absurd ⟨before ++ lead, gap, trail ++ after, ?_, separators spaces, ?_, ?_⟩ other
    · exact List.forall_mem_append.2 ⟨blanksBefore, (separators spacesLead).blanks⟩
    · exact List.forall_mem_append.2 ⟨(separators spacesTrail).blanks, blanksAfter⟩
    · rw [cut, text]
      simp
  · rfl

theorem ofLine_emptyObject {line : String} (empty : IsEmptyObject line.toList) : ofLine line = [] := by
  obtain ⟨before, gap, after, blanksBefore, separators, blanksAfter, text⟩ := empty
  have trimmed : Unicode.trim line.toList = '{' :: (gap ++ ['}']) := by
    rw [text]
    exact trim_braces blanksBefore blanksAfter
  have last : ('{' :: (gap ++ ['}'])).getLast? = some '}' := by
    rw [← List.cons_append]
    exact List.getLast?_concat
  have looks : looksLikeObject line = true := by simp [looksLikeObject, trimmed, last]
  have unquoted : '"' ∉ '{' :: (gap ++ ['}']) := by
    simp only [List.mem_cons, List.mem_append, List.not_mem_nil, or_false, not_or]
    refine ⟨by decide, fun member => ?_, by decide⟩
    cases separators _ member
  have nothing : Json.Spaces [] := by rintro c ⟨⟩
  have parsed : Json.Value.parse? ('{' :: (gap ++ ['}'])) = some (.object []) :=
    (Json.parse?_object_iff unquoted []).2 ⟨rfl, [], gap, [], nothing,
      fun c member => (isSpace_eq c).trans (separators c member), nothing, rfl⟩
  have read : ofObject? line = some [] := by
    unfold ofObject?
    rw [trimmed, parsed]
    rfl
  rw [ofLine, if_pos looks, read]
  rfl

theorem ofLine_plain {line : String} (plain : Unquoted line.toList)
    (other : ¬ IsEmptyObject line.toList) : ofLine line = ofPlain line := by
  rw [ofLine, ofObject?_eq_none plain other]
  split <;> rfl

/-! ## An empty object is one with or without its gaps -/

theorem awaitedAfter_blank {awaited : List Char} {c : Char} (blank : Unicode.isBlank c = true)
    (visible : ∀ closer ∈ awaited.head?, Unicode.isBlank closer = false) :
    awaitedAfter awaited c = awaited := by
  have no_bracket : closer? c = none := by
    unfold closer?
    split <;> first | rfl | cases blank
  have no_closer : ¬ awaited.head? = some c := by
    intro front
    cases blank.symm.trans (visible c front)
  rw [awaitedAfter, no_bracket]
  exact if_neg no_closer

section

variable {p : Char → Bool} (blank : ∀ c, p c = true → Unicode.isBlank c = true)
  (separator : ∀ c, isSeparator c = true → p c = true) {awaited : List Char}
  (visible : ∀ closer ∈ awaited.head?, Unicode.isBlank closer = false)

include blank separator visible

/-- Blanks in front open and close no brackets. -/
theorem dropWhile_withoutGaps (text : List Char) :
    (withoutGaps awaited text).dropWhile p = withoutGaps awaited (text.dropWhile p) := by
  induction text with
  | nil => rfl
  | cons c rest ih =>
    by_cases skipped : p c = true
    · rw [List.dropWhile_cons, if_pos skipped, ← ih, withoutGaps]
      split
      · rfl
      · rw [List.dropWhile_cons, if_pos skipped, awaitedAfter_blank (blank c skipped) visible]
    · have kept : ¬(awaited = [] ∧ isSeparator c = true) := fun gap => skipped (separator c gap.2)
      rw [List.dropWhile_cons, if_neg skipped, withoutGaps, if_neg kept, List.dropWhile_cons,
        if_neg skipped]

theorem dropWhile_withoutGaps_eq_cons {text behind : List Char} {c : Char} :
    (withoutGaps awaited text).dropWhile p = c :: behind ↔
      ∃ rest, text.dropWhile p = c :: rest ∧ withoutGaps (awaitedAfter awaited c) rest = behind := by
  rw [dropWhile_withoutGaps blank separator visible]
  cases front : text.dropWhile p with
  | nil => simp [withoutGaps]
  | cons first rest =>
    have kept : ¬(awaited = [] ∧ isSeparator first = true) := by
      intro gap
      have stopped := List.head?_dropWhile_not p text
      rw [front] at stopped
      simp [separator first gap.2] at stopped
    rw [withoutGaps, if_neg kept]
    constructor
    · intro same
      obtain ⟨rfl, behind⟩ := List.cons.inj same
      exact ⟨rest, rfl, behind⟩
    · rintro ⟨_, same, rfl⟩
      obtain ⟨rfl, rfl⟩ := List.cons.inj same
      rfl

theorem dropWhile_withoutGaps_eq_nil {text : List Char} :
    (withoutGaps awaited text).dropWhile p = [] ↔ text.dropWhile p = [] := by
  cases front : text.dropWhile p with
  | nil =>
    rw [dropWhile_withoutGaps blank separator visible, front]
    simp [withoutGaps]
  | cons c rest =>
    have kept := (dropWhile_withoutGaps_eq_cons blank separator visible).2 ⟨rest, front, rfl⟩
    simp [kept]

end

theorem isEmptyObject_iff {text : List Char} : IsEmptyObject text ↔
    ∃ inner after, Unicode.trimStart text = '{' :: inner ∧
      inner.dropWhile isSeparator = '}' :: after ∧ Unicode.trimStart after = [] := by
  constructor
  · rintro ⟨before, gap, after, blanksBefore, separators, blanksAfter, rfl⟩
    refine ⟨gap ++ '}' :: after, after, ?_, ?_, ?_⟩
    · exact Text.trimStart_blank blanksBefore (Text.stops_cons rfl _)
    · exact Text.dropWhile_stops separators (Text.stops_cons rfl _)
    · exact List.dropWhile_eq_nil_iff.2 blanksAfter
  · rintro ⟨inner, after, opened, closed, ended⟩
    obtain ⟨before, blanksBefore, cut⟩ := Text.exists_run Unicode.isBlank text
    obtain ⟨gap, separators, cutInner⟩ := Text.exists_run isSeparator inner
    refine ⟨before, gap, after, blanksBefore, separators, List.dropWhile_eq_nil_iff.1 ended, ?_⟩
    rw [← closed, ← cutInner, ← opened]
    exact cut

theorem isEmptyObject_withoutGaps {text : List Char} :
    IsEmptyObject (withoutGaps [] text) ↔ IsEmptyObject text := by
  have opening : awaitedAfter [] '{' = ['}'] := rfl
  have closing : awaitedAfter ['}'] '}' = [] := rfl
  have no_closer : ∀ closer ∈ ([] : List Char).head?, Unicode.isBlank closer = false := by
    rintro _ ⟨⟩
  have brace : ∀ closer ∈ ['}'].head?, Unicode.isBlank closer = false := by
    rintro _ ⟨⟩
    rfl
  have blank : ∀ c, isSeparator c = true → Unicode.isBlank c = true :=
    fun _ => isBlank_of_isSeparator
  simp only [isEmptyObject_iff, Unicode.trimStart,
    dropWhile_withoutGaps_eq_cons (fun _ blank => blank) blank no_closer, opening]
  constructor
  · rintro ⟨_, _, ⟨inner, opened, rfl⟩, closed, ended⟩
    obtain ⟨after, closes, rfl⟩ :=
      (dropWhile_withoutGaps_eq_cons blank (fun _ separator => separator) brace).1 closed
    rw [closing, dropWhile_withoutGaps_eq_nil (fun _ blank => blank) blank no_closer] at ended
    exact ⟨inner, after, opened, closes, ended⟩
  · rintro ⟨inner, after, opened, closed, ended⟩
    refine ⟨_, _, ⟨inner, opened, rfl⟩,
      (dropWhile_withoutGaps_eq_cons blank (fun _ separator => separator) brace).2
        ⟨after, closed, rfl⟩, ?_⟩
    rw [closing, dropWhile_withoutGaps_eq_nil (fun _ blank => blank) blank no_closer]
    exact ended

/-! ## Joined columns -/

theorem withoutGaps_sublist (awaited text : List Char) : (withoutGaps awaited text).Sublist text := by
  induction text generalizing awaited with
  | nil => exact .slnil
  | cons c rest ih =>
    rw [withoutGaps]
    split
    · exact (ih _).cons c
    · exact (ih _).cons_cons c

theorem unquoted_joined {line : String} (plain : Unquoted line.toList) :
    Unquoted (" ".intercalate (ofPlain line)).toList := by
  intro c member
  rw [String.toList_intercalate] at member
  rcases Text.mem_of_mem_intercalate member with space | member
  · cases List.mem_singleton.1 space
    rfl
  · rw [← List.flatMap_def, flatten_ofPlain plain] at member
    exact plain c ((withoutGaps_sublist [] line.toList).subset member)

theorem isEmptyObject_joined {line : String} (plain : Unquoted line.toList) :
    IsEmptyObject (" ".intercalate (ofPlain line)).toList ↔ IsEmptyObject line.toList := by
  rw [← isEmptyObject_withoutGaps, ← flatten_ofPlain (unquoted_joined plain), ofPlain_joined plain,
    flatten_ofPlain plain, isEmptyObject_withoutGaps]

/-- The columns of a line without quotes hold all its characters but separators outside brackets,
none of them is empty, and the text that shows them is split into them again. -/
theorem ofLine_joined {line : String} (plain : Unquoted line.toList) (time : Option Time.DateTime) :
    ((ofPlain line).flatMap String.toList = withoutGaps [] line.toList ∧ "" ∉ ofPlain line) ∧
      let record : Record := ⟨line, time, ofLine line⟩
      Report.columnsLine false record = record.joined ++ "\n" ∧ ofLine record.joined = ofLine line := by
  refine ⟨⟨flatten_ofPlain plain, empty_not_mem_ofPlain plain⟩, rfl, ?_⟩
  by_cases empty : IsEmptyObject line.toList
  · have nothing := ofLine_emptyObject empty
    simp only [Record.joined, nothing]
    rfl
  · have other := empty ∘ (isEmptyObject_joined plain).1
    simp only [Record.joined, ofLine_plain plain empty]
    rw [ofLine_plain (unquoted_joined plain) other]
    exact ofPlain_joined plain

theorem ofLine_joined_brackets :
    let line := "\tx(a ]b )\r\n \x7b\x7d  [open y "
    let record : Record := ⟨line, none, ofLine line⟩
    Unquoted line.toList ∧ record.columns = ["x(a ]b )", "\x7b\x7d", "[open y "] ∧
      ofLine record.joined = record.columns := by
  intro line record
  have all : line.toList.all (fun c => !isQuote c) = true := by decide +kernel
  have plain : Unquoted line.toList := fun c member => by
    simpa using List.all_eq_true.1 all c member
  have columns : record.columns = ["x(a ]b )", "\x7b\x7d", "[open y "] := by decide +kernel
  exact ⟨plain, columns, (ofLine_joined plain none).2.2⟩

end LogQuery.Columns

import LogQuery.Proofs.ByteStream.Segments
import LogQuery.Proofs.Time.LineFormat

/-! The date of a line is the same whether its first bytes are looked at or its whole text, with the
line's end or without it. -/

set_option autoImplicit false

namespace LogQuery.Time

open Shape Text

namespace Recognizer

variable (r : Recognizer)

def ofValue (format : LineFormat) (value : List Char) : Option DateTime :=
  if format.hasYear then r.read format.fields format.hasOffset value
  else r.readYearless format.fields format.hasOffset value

theorem inFormat_eq (line : List Char) (format : LineFormat) :
    r.inFormat line format = ((pairs format.lead format.body line).head?).bind fun words =>
      r.ofValue format (format.tidying.apply words.2) := by
  rw [inFormat, LineFormat.value?, capture?_eq]
  cases (pairs format.lead format.body line).head? <;> rfl

theorem read_foreign {fields : List Field} (ascii : fields.all Field.isAscii = true)
    (hasOffset : Bool) {value : List Char} {c : Char} (foreign : IsForeign c) (member : c ∈ value) :
    r.read fields hasOffset value = none := by
  rw [read, Reading.ofText_foreign ascii foreign member]

theorem readYearless_foreign {fields : List Field} (ascii : fields.all Field.isAscii = true)
    (hasOffset : Bool) {value : List Char} {c : Char} (foreign : IsForeign c) (member : c ∈ value) :
    r.readYearless fields hasOffset value = none := by
  rw [readYearless, List.findSome?_eq_none_iff]
  intro year _
  have withYear : (Field.year :: .blanks :: fields).all Field.isAscii = true := by
    simpa [Field.isAscii] using ascii
  rw [r.read_foreign withYear hasOffset foreign
    (List.mem_append_right _ (List.mem_cons_of_mem ' ' member))]
  rfl

theorem ofValue_foreign {format : LineFormat} (fields : format.fields.all Field.isAscii = true)
    {value : List Char} {c : Char} (foreign : IsForeign c) (member : c ∈ value) :
    r.ofValue format (format.tidying.apply value) = none := by
  have kept := format.tidying.keeps value c foreign member
  rw [ofValue]
  split
  · exact r.read_foreign fields _ foreign kept
  · exact r.readYearless_foreign fields _ foreign kept

theorem inFormat_foreign {format : LineFormat} (steady : format.IsSteady) {line : List Char}
    (foreign : ∀ words, words ∈ pairs format.lead format.body line →
      ∃ c ∈ words.1 ++ words.2, IsForeign c) : r.inFormat line format = none := by
  rw [inFormat_eq]
  cases first : (pairs format.lead format.body line).head? with
  | none => rfl
  | some words =>
    have member := List.mem_of_head? first
    obtain ⟨c, inWords, isForeign⟩ := foreign words member
    have inLead := (mem_pairs.1 member).2.1
    have inValue : c ∈ words.2 := by
      refine (List.mem_append.1 inWords).resolve_left fun inFront => ?_
      exact not_isForeign_of_ascii (steady.lead _ inLead c inFront) isForeign
    exact r.ofValue_foreign steady.fields isForeign inValue

theorem formats_reject : (LineFormat.all.all fun format => [replacement, '\n', '\r'].all fun c =>
    format.lead.rejects c && format.body.rejects c) = true := by
  decide

theorem format_rejects {format : LineFormat} (member : format ∈ LineFormat.all) {c : Char}
    (ending : c ∈ [replacement, '\n', '\r']) :
    format.lead.rejects c = true ∧ format.body.rejects c = true := by
  have rejects := List.all_eq_true.1 (List.all_eq_true.1 formats_reject format member) c ending
  exact Bool.and_eq_true_iff.1 rejects

theorem pairs_format_cut {format : LineFormat} (member : format ∈ LineFormat.all) {c : Char}
    (ending : c ∈ [replacement, '\n', '\r']) {short long : List Char}
    (alike : BeginsAlike c short long) :
    pairs format.lead format.body short =
      (pairs format.lead format.body long).filter fun words => words.1 ++ words.2 <+: short := by
  obtain ⟨lead, body⟩ := format_rejects member ending
  exact pairs_cut alike lead (taken_cut lead alike) fun _ _ => taken_cut body

/-- A format gives the same date for a text that is cut behind everything that is short. -/
theorem inFormat_cut {format : LineFormat} (member : format ∈ LineFormat.all)
    {short long : List Char} (alike : BeginsAlike replacement short long)
    (fits : ∀ word, replacement ∉ word → word <+: long → weightOf word ≤ prefixLength →
      word <+: short) : r.inFormat short format = r.inFormat long format := by
  have steady := LineFormat.isSteady member
  have rejects := format_rejects member (c := replacement) (by simp)
  have cut := pairs_format_cut member (by simp) alike
  by_cases whole : ∀ words ∈ pairs format.lead format.body long, words.1 ++ words.2 <+: short
  · rw [inFormat_eq, inFormat_eq, cut, List.filter_eq_self.2 (by simpa using whole)]
  · -- a match that is cut through is heavy, so that no match of the text can be read
    simp only [not_forall] at whole
    obtain ⟨words, among, isCut⟩ := whole
    obtain ⟨begins, inLead, inBody⟩ := mem_pairs.1 among
    have heavy : prefixLength < weightOf (words.1 ++ words.2) := by
      refine Nat.lt_of_not_le fun light => isCut (fits _ ?_ begins light)
      rw [List.mem_append, not_or]
      exact ⟨not_mem_of_rejects rejects.1 inLead, not_mem_of_rejects rejects.2 inBody⟩
    have foreign (others : List Char × List Char)
        (among' : others ∈ pairs format.lead format.body long) :
        ∃ c ∈ others.1 ++ others.2, IsForeign c := by
      obtain ⟨begins', inLead', inBody'⟩ := mem_pairs.1 among'
      exact steady.foreign long _ _ ⟨_, _, rfl, inLead, inBody⟩ ⟨_, _, rfl, inLead', inBody'⟩
        begins begins' heavy
    rw [r.inFormat_foreign steady foreign]
    refine r.inFormat_foreign steady fun others among' => foreign others ?_
    rw [cut] at among'
    exact (List.mem_filter.1 among').1

theorem findSome?_congr {α β : Type} {f g : α → Option β} {items : List α}
    (same : ∀ a ∈ items, f a = g a) : items.findSome? f = items.findSome? g := by
  induction items with
  | nil => rfl
  | cons a items ih =>
    rw [List.forall_mem_cons] at same
    rw [List.findSome?_cons, List.findSome?_cons, same.1, ih same.2]

/-- The first bytes of a line tell the date that its whole text does. -/
theorem ofBytes_eq (line : List UInt8) : r.ofBytes line = r.ofText (decodeLossy line) := by
  refine findSome?_congr fun format member => r.inFormat_cut member ?_ ?_
  · exact fun word proper begins => prefix_of_take proper begins
  · exact fun word proper begins light => prefix_take proper begins light

/-- The characters of a line's end do not count for its date. -/
theorem ofText_append (text : List Char) {c : Char} (ending : c ∈ ['\n', '\r']) :
    r.ofText (text ++ [c]) = r.ofText text := by
  refine findSome?_congr fun format member => ?_
  have ending : c ∈ [replacement, '\n', '\r'] := List.mem_cons_of_mem _ ending
  have alike : BeginsAlike c text (text ++ [c]) := fun _ _ begins =>
    begins.trans (List.prefix_append text [c])
  have rejects := format_rejects member ending
  rw [inFormat_eq, inFormat_eq, pairs_format_cut member ending alike, List.filter_eq_self.2]
  intro words among
  obtain ⟨begins, inLead, inBody⟩ := mem_pairs.1 among
  have free : c ∉ words.1 ++ words.2 := by
    rw [List.mem_append, not_or]
    exact ⟨not_mem_of_rejects rejects.1 inLead, not_mem_of_rejects rejects.2 inBody⟩
  rcases List.prefix_concat_iff.1 begins with all | short
  · rw [all] at free
    simp at free
  · simpa using short

theorem ofBytes_append (line : List UInt8) {last : UInt8} (ending : last = 10 ∨ last = 13) :
    r.ofBytes (line ++ [last]) = r.ofBytes line := by
  rcases ending with rfl | rfl
  · rw [ofBytes_eq, decodeLossy_append line (by decide), r.ofText_append _ (by decide),
      ← ofBytes_eq]
  · rw [ofBytes_eq, decodeLossy_append line (by decide), r.ofText_append _ (by decide),
      ← ofBytes_eq]

theorem formats_undated : (LineFormat.all.all fun format => (format.value? []).isNone) = true := by
  decide

theorem ofBytes_nil : r.ofBytes [] = none := by
  rw [ofBytes, List.take_nil, decodeLossy_nil, ofText, List.findSome?_eq_none_iff]
  intro format member
  rw [inFormat, Option.isNone_iff_eq_none.1 (List.all_eq_true.1 formats_undated format member)]

/-- A line has one date: its first bytes tell the one that its whole text does, and neither changes
with the line's end, which is a newline with or without a carriage return before it. -/
theorem agrees_on_line (line : List UInt8) :
    r.ofBytes line = r.ofText (decodeLossy line) ∧
      ∀ ending ∈ [[10], [13, 10]],
        r.ofBytes (line ++ ending) = r.ofBytes line ∧
          r.ofText (decodeLossy (line ++ ending)) = r.ofText (decodeLossy line) := by
  refine ⟨r.ofBytes_eq line, fun ending member => ?_⟩
  have unchanged : r.ofBytes (line ++ ending) = r.ofBytes line := by
    rcases List.mem_cons.1 member with rfl | member
    · exact r.ofBytes_append line (.inl rfl)
    · obtain rfl := List.mem_singleton.1 member
      -- the newline goes first, then the carriage return
      have newline : r.ofBytes (line ++ [13] ++ [10]) = r.ofBytes (line ++ [13]) :=
        r.ofBytes_append _ (.inl rfl)
      rw [List.append_assoc] at newline
      exact newline.trans (r.ofBytes_append line (.inr rfl))
  exact ⟨unchanged, by rw [← ofBytes_eq, ← ofBytes_eq, unchanged]⟩

theorem ignoresNewline : ByteStream.IgnoresNewline r.ofBytes := by
  intro line
  rw [ByteStream.bare]
  split
  · rename_i ended
    obtain ⟨front, rfl⟩ := List.getLast?_eq_some_iff.1 ended
    rw [List.dropLast_concat]
    exact (r.ofBytes_append front (.inl rfl)).symm
  · rfl

end Recognizer

end LogQuery.Time

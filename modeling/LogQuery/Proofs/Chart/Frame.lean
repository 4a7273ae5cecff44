import LogQuery.Chart.Layout
import LogQuery.Proofs.Text.Numeral
import LogQuery.Proofs.Time.Calendar

/-! The lines of a framed chart and their lengths.

A count in short takes four characters at most, but for a thousand of its unit, which takes five.
-/

set_option autoImplicit false

namespace LogQuery

namespace Text

/-! ### Counts in short -/

def IsThousandfold (count : Nat) : Prop := ∃ power < 6, count / Nat.pow 1000 (power + 1) = 1000

instance (count : Nat) : Decidable (IsThousandfold count) :=
  inferInstanceAs (Decidable (∃ power < 6, _))

theorem length_toString_le {n : Nat} (small : n ≤ 1000) :
    (toString n).length ≤ 4 ∧ ((toString n).length = 4 ↔ n = 1000) := by
  have four : (toString n).length ≤ 4 := (Nat.length_repr_le_iff (by decide)).2 (by omega)
  have three : (toString n).length ≤ 3 ↔ n < 1000 := Nat.length_repr_le_iff (by decide)
  omega

theorem length_unit {value : Nat} {suffix : String} (single : suffix.length = 1)
    (small : value ≤ 1000) :
    (s!"{value}{suffix}").length ≤ 5 ∧ ((s!"{value}{suffix}").length = 5 ↔ value = 1000) := by
  have digits := length_toString_le small
  have whole : (s!"{value}{suffix}").length = (toString value).length + 1 := by
    rw [← single]
    exact String.length_append _ _
  rw [whole]
  omega

theorem div_pow_succ (value power : Nat) :
    value / Nat.pow 1000 (power + 1) = value / 1000 / Nat.pow 1000 power := by
  rw [Nat.div_div_eq_div_mul, Nat.mul_comm]
  rfl

theorem div_pow_ne {value : Nat} (small : value ≤ 1000) (power : Nat) :
    value / Nat.pow 1000 (power + 1) ≠ 1000 := by
  have := Nat.div_le_self (value / 1000) (Nat.pow 1000 power)
  rw [div_pow_succ]
  omega

theorem abbreviatedBy_cons (suffix next : String) (larger : List String) (value : Nat) :
    abbreviatedBy (suffix :: next :: larger) value =
      if value > 1000 then abbreviatedBy (next :: larger) (value / 1000) else s!"{value}{suffix}" :=
  rfl

theorem length_abbreviatedBy {suffix : String} {larger : List String}
    (single : ∀ s ∈ suffix :: larger, s.length = 1) {value : Nat}
    (fits : value / Nat.pow 1000 larger.length ≤ 1000) :
    (abbreviatedBy (suffix :: larger) value).length ≤ 5 ∧
      ((abbreviatedBy (suffix :: larger) value).length = 5 ↔
        ∃ power ≤ larger.length, value / Nat.pow 1000 power = 1000) := by
  have pow_zero : value / Nat.pow 1000 0 = value := Nat.div_one value
  induction larger generalizing suffix value with
  | nil =>
    have unit := length_unit (single suffix List.mem_cons_self) (pow_zero ▸ fits)
    refine ⟨unit.1, unit.2.trans ⟨fun thousand => ⟨0, Nat.le_refl _, pow_zero.trans thousand⟩, ?_⟩⟩
    rintro ⟨power, none_more, thousand⟩
    rw [Nat.le_zero.1 none_more, pow_zero] at thousand
    exact thousand
  | cons next larger ih =>
    rw [List.forall_mem_cons] at single
    rw [abbreviatedBy_cons]
    -- a large value goes on to the next suffix as a thousandth of itself
    by_cases large : value > 1000
    · rw [if_pos large]
      obtain ⟨short, thousand⟩ := ih single.2 (by rwa [← div_pow_succ]) (Nat.div_one _)
      refine ⟨short, thousand.trans ⟨?_, ?_⟩⟩
      · rintro ⟨power, few, thousand⟩
        exact ⟨power + 1, Nat.succ_le_succ few, by rwa [div_pow_succ]⟩
      · rintro ⟨power, few, thousand⟩
        cases power with
        | zero => omega
        | succ power => exact ⟨power, Nat.le_of_succ_le_succ few, by rwa [← div_pow_succ]⟩
    · rw [if_neg large]
      have unit := length_unit single.1 (Nat.not_lt.1 large)
      refine ⟨unit.1, unit.2.trans ⟨fun thousand => ⟨0, Nat.zero_le _, pow_zero.trans thousand⟩, ?_⟩⟩
      rintro ⟨power, few, thousand⟩
      cases power with
      | zero => exact pow_zero.symm.trans thousand
      | succ power => exact absurd thousand (div_pow_ne (Nat.not_lt.1 large) power)

theorem length_abbreviated {count : Nat} (word : count < wordLimit) :
    (abbreviated count).length ≤ 5 ∧ ((abbreviated count).length = 5 ↔ IsThousandfold count) := by
  rw [abbreviated, abbreviatedBy_cons]
  by_cases large : count > 1000
  · have limit : wordLimit = 18446744073709551616 := rfl
    have last : Nat.pow 1000 5 = 1000000000000000 := rfl
    have fits : count / 1000 / Nat.pow 1000 5 ≤ 1000 := by
      rw [last]
      omega
    have units := @length_abbreviatedBy "k" ["M", "G", "T", "P", "E"] (by decide) _ fits
    rw [if_pos large]
    refine ⟨units.1, units.2.trans ?_⟩
    simp only [IsThousandfold, div_pow_succ, Nat.lt_succ_iff]
    rfl
  · have plain : (toString count ++ toString "").length = (toString count).length :=
      congrArg String.length (String.append_empty ..)
    have digits := length_toString_le (Nat.not_lt.1 large)
    rw [if_neg large, plain]
    refine ⟨by omega, ⟨by omega, ?_⟩⟩
    rintro ⟨power, -, thousand⟩
    exact absurd thousand (div_pow_ne (Nat.not_lt.1 large) power)

end Text

open Text (IsThousandfold length_padLeft length_zeroPadded length_abbreviated)

namespace Time.DateTime

/-! ### Times as labels -/

theorem length_clockText (t : DateTime) : t.clockText.length = 8 := by
  have day : t.localSecondOfDay < 86400 := by
    rw [localSecondOfDay, secondsPerDay]
    omega
  have two {n : Nat} (fits : n < 100) : (toString (Text.zeroPadded 2 n)).length = 2 :=
    length_zeroPadded (by decide) fits
  have colon : (toString ":").length = 1 := rfl
  have leap : (if t.isLeap = true then 1 else 0) ≤ 1 := by
    split <;> decide
  simp only [clockText, String.length_append, colon]
  rw [two (by omega), two (by omega), two (by omega)]

theorem length_dateText {days : Int} (lower : 0 ≤ (Date.ofDays days).year)
    (upper : (Date.ofDays days).year ≤ 9999) : (dateText (Date.ofDays days)).length = 10 := by
  obtain ⟨month, day⟩ := Date.ofDays_le days
  have two {n : Nat} (fits : n < 100) : (toString (Text.zeroPadded 2 n)).length = 2 :=
    length_zeroPadded (by decide) fits
  have four : (toString (yearText (Date.ofDays days).year)).length = 4 := by
    rw [yearText, if_pos (by simp [lower, upper])]
    refine length_zeroPadded (by decide) ?_
    have limit : Nat.pow 10 4 = 10000 := rfl
    omega
  have dash : (toString "-").length = 1 := rfl
  simp only [dateText, String.length_append, dash]
  rw [four, two (by omega), two (by omega)]

end Time.DateTime

namespace Chart

theorem peak_lt {counts : Array Nat} {limit : Nat} (some_room : 1 < limit)
    (below : ∀ count ∈ counts, count < limit) : peak counts < limit := by
  have highest (values : List Nat) (start : Nat) (first : start < limit)
      (below : ∀ count ∈ values, count < limit) : values.foldl max start < limit := by
    induction values generalizing start with
    | nil => exact first
    | cons value values ih =>
      rw [List.forall_mem_cons] at below
      exact ih _ (Nat.max_lt.2 ⟨first, below.1⟩) below.2
  exact Nat.max_lt.2 ⟨highest _ 0 (by omega) fun count member => below count (Array.mem_toList_iff.1 member),
    some_room⟩

namespace Layout

/-- A chart with its border and both kinds of labels, large enough for them, over times whose years
take four digits. -/
structure IsFramed (layout : Layout) : Prop where
  border : layout.hasBorder = true
  timeLabels : layout.hasTimeLabels = true
  countLabels : layout.hasCountLabels = true
  wide : 22 ≤ layout.width
  high : 3 ≤ layout.height
  years : ∀ t ∈ [layout.window.start, layout.window.finish],
    0 ≤ t.localDate.year ∧ t.localDate.year ≤ 9999

variable {layout : Layout}

theorem IsFramed.plotWidth (framed : layout.IsFramed) : layout.plotWidth + 6 = layout.width := by
  have wide := framed.wide
  rw [Layout.plotWidth, framed.border, framed.countLabels, if_pos rfl, if_pos rfl, countLabelWidth]
  omega

theorem IsFramed.plotHeight (framed : layout.IsFramed) : layout.plotHeight + 2 = layout.height := by
  have high := framed.high
  rw [Layout.plotHeight, framed.border, framed.timeLabels, if_pos rfl]
  omega

/-! ### Pixels -/

/-- The pixels of a cell of the plot are pixels of the bitmap. -/
theorem pixel_within (counts : Array Nat) {column row dx dy : Nat} {bits : List Nat}
    (inWidth : column < layout.plotWidth) (inHeight : row < layout.plotHeight)
    (line : layout.mode.bits[dy]? = some bits) (inLine : dx < bits.length) :
    column * layout.mode.cellWidth + dx < (layout.bitmap counts).width ∧
      row * layout.mode.cellHeight + dy < (layout.bitmap counts).height := by
  have size : (layout.bitmap counts).width = layout.plotWidth * layout.mode.cellWidth :=
    Bitmap.width_ofCounts ..
  have height : (layout.bitmap counts).height = layout.plotHeight * layout.mode.cellHeight := rfl
  obtain ⟨inBits, same⟩ := List.getElem?_eq_some_iff.1 line
  rw [Mode.length_bits] at inBits
  rw [Mode.length_of_mem_bits (same ▸ List.getElem_mem _)] at inLine
  have columns := Nat.mul_le_mul_right layout.mode.cellWidth (Nat.succ_le_of_lt inWidth)
  have rows := Nat.mul_le_mul_right layout.mode.cellHeight (Nat.succ_le_of_lt inHeight)
  rw [Nat.succ_mul] at columns rows
  omega

/-! ### Labels -/

def isLabelled (layout : Layout) (row : Nat) : Bool := (layout.plotHeight - row - 1) % 5 == 0

def countAbove (layout : Layout) (most row : Nat) : Nat :=
  (row + 1) * layout.mode.cellHeight * most / (layout.plotHeight * layout.mode.cellHeight)

theorem countAbove_le {row : Nat} (inHeight : row < layout.plotHeight) (most : Nat) :
    layout.countAbove most row ≤ most := by
  refine Nat.div_le_of_le_mul ?_
  exact Nat.mul_le_mul_right most (Nat.mul_le_mul_right _ (Nat.succ_le_of_lt inHeight))

theorem countLabel_eq (most row : Nat) : layout.countLabel most row =
    if layout.isLabelled row then
      Text.padLeft 4 ' ' (Text.abbreviated (most - layout.countAbove most row)) ++ " "
    else blanks countLabelWidth := rfl

/-- Is the label of the row too long for its place? -/
def Overhangs (layout : Layout) (most row : Nat) : Prop :=
  layout.isLabelled row = true ∧ IsThousandfold (most - layout.countAbove most row)

instance (most row : Nat) : Decidable (layout.Overhangs most row) :=
  inferInstanceAs (Decidable (_ ∧ _))

theorem length_blanks (n : Nat) : (blanks n).length = n := by
  rw [blanks, String.length_ofList, List.length_replicate]

theorem length_countLabel {most : Nat} (word : most < Text.wordLimit) (row : Nat) :
    (layout.countLabel most row).length = 5 + if layout.Overhangs most row then 1 else 0 := by
  rw [countLabel_eq]
  by_cases labelled : layout.isLabelled row = true
  · have smaller : most - layout.countAbove most row < Text.wordLimit := by omega
    obtain ⟨short, thousand⟩ := length_abbreviated smaller
    have overhangs : layout.Overhangs most row ↔
        IsThousandfold (most - layout.countAbove most row) := and_iff_right labelled
    have space : " ".length = 1 := rfl
    rw [if_pos labelled, String.length_append, length_padLeft, space, if_congr overhangs rfl rfl]
    split
    · rename_i thousandfold
      have := thousand.2 thousandfold
      omega
    · rename_i ordinary
      have := mt thousand.1 ordinary
      omega
  · rw [if_neg labelled, if_neg fun overhangs => labelled overhangs.1]
    exact length_blanks 5

theorem length_timeLabel {t : Time.DateTime} (lower : 0 ≤ t.localDate.year)
    (upper : t.localDate.year ≤ 9999) :
    (layout.timeLabel t).length = if layout.plotWidth < 40 then 8 else 19 := by
  rw [timeLabel]
  split
  · exact t.length_clockText
  · have space : (toString " ").length = 1 := rfl
    have date : (toString (Time.DateTime.dateText t.localDate)).length = 10 :=
      Time.DateTime.length_dateText lower upper
    have clock : (toString t.clockText).length = 8 := t.length_clockText
    rw [String.length_append, String.length_append, date, space, clock]

theorem IsFramed.labels_le (framed : layout.IsFramed) :
    (layout.timeLabel layout.window.start).length + (layout.timeLabel layout.window.finish).length ≤
      layout.plotWidth := by
  have years := framed.years
  rw [List.forall_mem_cons, List.forall_mem_singleton] at years
  rw [length_timeLabel years.1.1 years.1.2, length_timeLabel years.2.1 years.2.2]
  have wide := framed.wide
  have := framed.plotWidth
  split <;> omega

/-! ### Lines -/

theorem IsFramed.length_plotLine (framed : layout.IsFramed) {most : Nat}
    (word : most < Text.wordLimit) (bitmap : Bitmap) (row : Nat) :
    (layout.plotLine most bitmap row).length =
      layout.width + if layout.Overhangs most row then 1 else 0 := by
  have glyphs : (String.ofList (layout.plotGlyphs bitmap row)).length = layout.plotWidth := by
    rw [String.length_ofList, plotGlyphs, List.length_map, List.length_range]
  have border (c : Char) : c.toString.length = 1 := String.length_singleton
  have := framed.plotWidth
  rw [plotLine, framed.countLabels, framed.border, if_pos rfl, if_pos rfl, String.length_append,
    String.length_append, length_countLabel word, border, glyphs]
  omega

theorem IsFramed.length_borderLine (framed : layout.IsFramed) :
    layout.borderLine.length = layout.width := by
  have corner (c : Char) : c.toString.length = 1 := String.length_singleton
  have := framed.plotWidth
  rw [borderLine]
  simp only [framed.countLabels, if_true, String.length_append, length_blanks, corner,
    String.length_ofList, List.length_replicate, countLabelWidth]
  omega

theorem IsFramed.length_timeLine (framed : layout.IsFramed) :
    layout.timeLine.length = layout.width := by
  have := framed.plotWidth
  have := framed.labels_le
  rw [timeLine]
  simp only [framed.countLabels, if_true, String.length_append, length_blanks, countLabelWidth]
  omega

theorem IsFramed.render (framed : layout.IsFramed) (counts : Array Nat) :
    layout.render counts =
      (List.range layout.plotHeight).map (layout.plotLine (peak counts) (layout.bitmap counts)) ++
        [layout.borderLine, layout.timeLine] := by
  rw [Layout.render, framed.border, framed.timeLabels, if_pos rfl, if_pos rfl, List.append_assoc]
  rfl

/-- A framed chart has as many lines as it is high, and draws pixels of its bitmap only. The lines
are as long as it is wide, except where the count beside a row is shown as a thousand of a unit:
such a line is longer by one. -/
theorem render_frame (framed : layout.IsFramed) (counts : Array Nat)
    (words : ∀ count ∈ counts, count < Text.wordLimit) :
    let most := peak counts
    (layout.render counts).length = layout.height ∧
    (∀ row < layout.plotHeight, ∃ line, (layout.render counts)[row]? = some line ∧
      line.length = layout.width + if layout.Overhangs most row then 1 else 0) ∧
    (∀ row line, layout.plotHeight ≤ row → (layout.render counts)[row]? = some line →
      line.length = layout.width) ∧
    ((∀ line ∈ layout.render counts, line.length = layout.width) ↔
      ∀ row < layout.plotHeight, ¬ layout.Overhangs most row) ∧
    (∀ column < layout.plotWidth, ∀ row < layout.plotHeight,
      ∀ dy bits, layout.mode.bits[dy]? = some bits → ∀ dx < bits.length,
        column * layout.mode.cellWidth + dx < (layout.bitmap counts).width ∧
          row * layout.mode.cellHeight + dy < (layout.bitmap counts).height) ∧
    (layout.plotWidth + 6 = layout.width ∧ layout.plotHeight + 2 = layout.height ∧
      (layout.timeLabel layout.window.start).length +
        (layout.timeLabel layout.window.finish).length ≤ layout.plotWidth ∧
      ∀ row < layout.plotHeight, layout.countAbove most row ≤ most) := by
  intro most
  have word : most < Text.wordLimit := peak_lt (by decide) words
  have rows (row : Nat) (inHeight : row < layout.plotHeight) :
      (layout.render counts)[row]? = some (layout.plotLine most (layout.bitmap counts) row) := by
    rw [framed.render, List.getElem?_append_left (by simpa using inHeight), List.getElem?_map,
      List.getElem?_range inHeight]
    rfl
  -- below the plot there are the border and the line with the times
  have below (row : Nat) (line : String) (outside : layout.plotHeight ≤ row)
      (isLine : (layout.render counts)[row]? = some line) : line.length = layout.width := by
    rw [framed.render, List.getElem?_append_right (by simpa using outside)] at isLine
    rcases List.mem_cons.1 (List.mem_of_getElem? isLine) with rfl | last
    · exact framed.length_borderLine
    · rw [List.mem_singleton.1 last]
      exact framed.length_timeLine
  refine ⟨?_, fun row inHeight => ⟨_, rows row inHeight, framed.length_plotLine word _ row⟩, below,
    ⟨fun fills row inHeight overhangs => ?_, fun fits line member => ?_⟩, ?_,
    framed.plotWidth, framed.plotHeight, framed.labels_le,
    fun row inHeight => countAbove_le inHeight most⟩
  · rw [framed.render, List.length_append, List.length_map, List.length_range]
    exact framed.plotHeight
  · have length := framed.length_plotLine word (layout.bitmap counts) row
    rw [fills _ (List.mem_of_getElem? (rows row inHeight)), if_pos overhangs] at length
    omega
  · obtain ⟨row, isLine⟩ := List.getElem?_of_mem member
    by_cases inHeight : row < layout.plotHeight
    · rw [rows row inHeight, Option.some.injEq] at isLine
      rw [← isLine, framed.length_plotLine word, if_neg (fits row inHeight)]
      rfl
    · exact below row line (Nat.not_lt.1 inHeight) isLine
  · intro column inWidth row inHeight dy bits line dx inLine
    exact pixel_within counts inWidth inHeight line inLine

theorem render_frame_hour :
    let layout : Layout := ⟨.braille, 40, 10, true, true, true,
      ⟨⟨1480928400, Time.toNano 0, 0⟩, ⟨1480932000, Time.toNano 0, 3600⟩⟩⟩
    let counts := #[0, 7, 1, 1008, 18446744073709551615, 3]
    layout.IsFramed ∧ (∀ count ∈ counts, count < Text.wordLimit) ∧
      (layout.render counts).length = 10 ∧
      ∀ line ∈ layout.render counts, line.length = 40 := by
  intro layout counts
  have framed : layout.IsFramed := ⟨rfl, rfl, rfl, by decide, by decide, by decide +kernel⟩
  have words : ∀ count ∈ counts, count < Text.wordLimit := by decide
  obtain ⟨height, -, -, width, -, -⟩ := render_frame framed counts words
  exact ⟨framed, words, height, width.2 (by decide +kernel)⟩

/-- Five sixths of a peak of 1200000 are shown as `1000k`, for which there is no room in front of
the plot. -/
theorem thousandfold_overhangs :
    let layout : Layout := ⟨.block, 22, 8, true, true, true,
      ⟨⟨1480928400, Time.toNano 0, 0⟩, ⟨1480932000, Time.toNano 0, 0⟩⟩⟩
    layout.IsFramed ∧ ∃ line ∈ layout.render #[1200000], line.length = 23 := by
  intro layout
  have framed : layout.IsFramed := ⟨rfl, rfl, rfl, by decide, by decide, by decide +kernel⟩
  refine ⟨framed, layout.plotLine 1200000 (layout.bitmap #[1200000]) 0, ?_, ?_⟩
  · rw [framed.render]
    exact List.mem_append_left _ (List.mem_map_of_mem (by decide))
  · have word : 1200000 < Text.wordLimit := by decide
    exact (framed.length_plotLine word _ 0).trans (by decide +kernel)

end Layout

end Chart

end LogQuery

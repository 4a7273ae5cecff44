import LogQuery.Proofs.Unicode.CharSet
import LogQuery.Text.Width

/-! Cutting a text to a width.

A text is measured as a whole but cut by the cells of its characters, each taken alone. The whole is
never wider than they are together but for control characters and the selector that asks for an
emoji, which have no cell alone and up to one in a text: what is cut is too wide by at most as many
cells as it has of these.
-/

set_option autoImplicit false

namespace LogQuery.Text

open Unicode

/-- Characters that add to the width of a text though they have no cell when they stand alone. -/
def widens (c : Char) : Bool := isControl c || c == '\ufe0f'

def cellsAlone : List Char → Nat
  | [] => 0
  | c :: rest => cells c + cellsAlone rest

theorem cellsAlone_append (front rest : List Char) :
    cellsAlone (front ++ rest) = cellsAlone front + cellsAlone rest := by
  induction front with
  | nil => exact (Nat.zero_add _).symm
  | cons c front ih => simp only [List.cons_append, cellsAlone, ih, Nat.add_assoc]

def shownBlocks : List (Nat × Nat) :=
  [(0x20, 0x7E), (0xA0, 0xAC), (0xAE, 0xFF), (0x2010, 0x2029), (0x2030, 0x205F), (0x20F1, 0x2CEE),
    (0x2CF2, 0x2DDF), (0x3030, 0x3098), (0x309B, 0x3163), (0x3165, 0xA4FF), (0x16D68, 0x16D68),
    (0x1F000, 0x1FAFF)]

theorem selectableEmoji_shown : ∀ range ∈ selectableEmojiTable, ∃ block ∈ shownBlocks,
    block.1 ≤ range.1 ∧ range.2 ≤ block.2 := by
  decide +kernel

theorem shownBlocks_apart : ∀ block ∈ shownBlocks, ∀ zero ∈ zeroWidthTable,
    block.2 < zero.1 ∨ zero.2 < block.1 := by
  decide +kernel

theorem cells_pos {c : Char} (inside : CharSet.InRanges shownBlocks c.toNat) : 1 ≤ cells c := by
  have shown : isControl c = false := by
    have printable : ∀ block ∈ shownBlocks, 0x20 ≤ block.1 ∧ (block.2 < 0x7F ∨ 0xA0 ≤ block.1) := by
      decide
    obtain ⟨block, listed, first, last⟩ := inside
    have := printable block listed
    simp only [isControl, Bool.or_eq_false_iff, Bool.and_eq_false_iff, decide_eq_false_iff_not]
    omega
  have some_cell : zeroWidthChars.contains c = false :=
    CharSet.contains_eq_false (CharSet.not_inRanges_of_apart shownBlocks_apart inside)
  rw [cells, shown, some_cell]
  repeat' split
  all_goals first | contradiction | decide

theorem cells_ellipsis : cells '…' = 1 := by
  have least : 1 ≤ cells '…' := cells_pos (by decide)
  have narrow : wideChars.contains '…' = false := CharSet.contains_eq_false (by decide +kernel)
  have most : cells '…' ≤ 1 := by
    rw [cells, narrow]
    repeat' split
    all_goals first | contradiction | decide
  omega

/-- The cells that what stands behind still brings to a text, beyond those of the characters ahead.
Joined indicators in pairs take two cells fewer than alone, and one more ahead of them brings these
back; a selector of an emoji makes the character ahead of it two cells wide. -/
def Behind.credit : Behind → Nat
  | .joinedIndicatorPairs => 2
  | .emojiSelector _ => 1
  | _ => 0

theorem credit_ofChar (c : Char) : (Behind.ofChar c).credit = 0 := by
  simp only [Behind.ofChar, apply_ite Behind.credit]
  simp only [Behind.credit, ite_self]

theorem credit_withoutSelector (rest : Behind) : rest.withoutSelector.credit = 0 := by
  cases rest <;> rfl

/-- A change in width ahead of `behind`, with the credit that it leaves, is paid for by `allowed`
cells and the credit that was there. -/
def Within (allowed : Nat) (behind : Behind) (change : Int × Behind) : Prop :=
  change.1 + change.2.credit ≤ behind.credit + allowed

theorem within_joinLetter? {c : Char} {letter : Ligature} {change : Int × Behind}
    (joins : joinLetter? c letter = some change) : Within (cells c) (.ligature letter) change := by
  have consonantJoiner : 1 ≤ cells '\u2d7f' := cells_pos (by decide)
  unfold joinLetter? at joins
  repeat' split at joins
  all_goals cases joins
  all_goals simp only [Within, Behind.credit]
  all_goals grind

theorem within_joinEmoji? {c : Char} {behind : Behind} {change : Int × Behind}
    (joins : joinEmoji? c behind = some change) : Within (cells c) behind change := by
  have indicator (is : isRegionalIndicator c = true) : 1 ≤ cells c := by
    simp only [isRegionalIndicator, Bool.and_eq_true, decide_eq_true_eq] at is
    exact cells_pos ⟨(0x1F000, 0x1FAFF), by decide, by omega, by omega⟩
  have vowel (is : c.toNat = 0x16D68) : 1 ≤ cells c := cells_pos (by rw [is]; decide)
  unfold joinEmoji? at joins
  dsimp only at joins
  -- only indicators and one vowel sign bring more than the credit, and they have a cell of their own
  repeat' split at joins
  all_goals cases joins
  all_goals simp only [Within, Behind.credit]
  all_goals grind

theorem within_getD {c : Char} {behind : Behind} {joined : Option (Int × Behind)}
    (joins : ∀ change, joined = some change → Within (cells c) behind change) :
    Within (cells c) behind (joined.getD (cells c, .ofChar c)) := by
  cases joined with
  | some change => exact joins change rfl
  | none =>
    simp only [Option.getD_none, Within, credit_ofChar]
    omega

/-- The cells that a character brings to a text at most, on top of what it takes of the credit. -/
def allowance (c : Char) : Nat := cells c + if widens c then 1 else 0

theorem cells_le_allowance (c : Char) : cells c ≤ allowance c := Nat.le_add_right ..

theorem Within.mono {allowed more : Nat} {behind : Behind} {change : Int × Behind}
    (within : Within allowed behind change) (le : allowed ≤ more) : Within more behind change := by
  unfold Within at within ⊢
  omega

theorem allowance_pos {c : Char} (low : c.toNat ≤ 0xA0) : 1 ≤ allowance c := by
  by_cases control : isControl c = true
  · simp only [allowance, widens, control, Bool.true_or, if_true]
    omega
  · have printable : (0x20 ≤ c.toNat ∧ c.toNat ≤ 0x7E) ∨ c.toNat = 0xA0 := by
      simp only [isControl, Bool.or_eq_true, Bool.and_eq_true, decide_eq_true_eq] at control
      omega
    refine Nat.le_trans (cells_pos ?_) (cells_le_allowance c)
    obtain ⟨first, last⟩ | high := printable
    · exact ⟨(0x20, 0x7E), by decide, first, last⟩
    · rw [high]
      decide

theorem within_cellsBefore (c : Char) (behind : Behind) :
    Within (allowance c) behind (cellsBefore c behind) := by
  unfold cellsBefore
  split
  next low =>
    have := allowance_pos low
    repeat' split
    all_goals simp only [Within, Behind.credit]
    all_goals omega
  next =>
    -- joining is paid for by the credit, and what does not join by its own cells
    have letter (letter : Ligature) : Within (cells c) (.ligature letter)
        ((joinLetter? c letter).getD (cells c, .ofChar c)) :=
      within_getD fun _ => within_joinLetter?
    have emoji : Within (cells c) behind ((joinEmoji? c behind).getD (cells c, .ofChar c)) :=
      within_getD fun _ => within_joinEmoji?
    split
    next selector =>
      have : widens c = true := by simp only [widens, selector, Bool.or_true]
      simp only [Within, Behind.credit, allowance, this, if_true]
      omega
    next =>
      split
      next =>
        simp only [Within, Behind.credit]
        omega
      next =>
        dsimp only
        split
        next => exact (letter .alef).mono (cells_le_allowance c)
        next =>
          repeat' split
          · simp only [Within, Behind.credit]
            omega
          · simp only [Within, Behind.credit]
            omega
          · exact (letter _).mono (cells_le_allowance c)
        next => exact emoji.mono (cells_le_allowance c)

theorem within_cellsAhead (c : Char) (behind : Behind) :
    Within (allowance c) behind (cellsAhead c behind) := by
  have shown (selectable : selectableEmoji.contains c = true) : 1 ≤ allowance c :=
    Nat.le_trans (cells_pos (CharSet.inRanges_of_within selectableEmoji_shown
      (CharSet.inRanges_of_contains selectable))) (cells_le_allowance c)
  -- a selector without use leaves the credit of what is behind it
  have unselected {behind : Behind} (rest : Behind) :
      Within (allowance c) behind (cellsBefore c rest.withoutSelector) := by
    have := within_cellsBefore c rest.withoutSelector
    unfold Within at this ⊢
    rw [credit_withoutSelector] at this
    omega
  unfold cellsAhead
  split
  case h_1 rest =>
    split
    next selectable =>
      have := shown selectable
      simp only [Within, Behind.credit]
      split <;> omega
    next => exact unselected rest
  case h_2 rest =>
    dsimp only
    split
    next selectable =>
      have := shown (by simp_all)
      simp only [Within, Behind.credit]
      omega
    next => exact unselected rest
  case h_3 => exact within_cellsBefore c behind

def measured (text : List Char) : Int × Behind :=
  text.foldr (fun c (total, behind) =>
    let (cells, behind) := cellsAhead c behind
    (total + cells, behind)) (0, .plain)

theorem measured_cons (c : Char) (rest : List Char) :
    measured (c :: rest) = ((measured rest).1 + (cellsAhead c (measured rest).2).1,
      (cellsAhead c (measured rest).2).2) :=
  rfl

theorem measured_le (text : List Char) :
    (measured text).1 + (measured text).2.credit ≤ cellsAlone text + text.countP widens := by
  induction text with
  | nil => decide
  | cons c rest ih =>
    have step := within_cellsAhead c (measured rest).2
    simp only [Within, allowance] at step
    rw [measured_cons, cellsAlone, List.countP_cons]
    dsimp only
    omega

/-- A text is wider than its characters are together by at most the number of those that widen. -/
theorem width_le (text : List Char) : width text ≤ cellsAlone text + text.countP widens := by
  have : width text = (measured text).1.toNat := rfl
  have := measured_le text
  omega

theorem cells_le (c : Char) : cells c ≤ 3 := by
  unfold cells
  repeat' split
  all_goals decide

theorem width_le_length (text : List Char) : width text ≤ 4 * text.length := by
  have widening : text.countP widens ≤ text.length := List.countP_le_length
  have alone : cellsAlone text ≤ 3 * text.length := by
    clear widening
    induction text with
    | nil => exact Nat.le_refl 0
    | cons c rest ih =>
      have := cells_le c
      rw [cellsAlone, List.length_cons]
      omega
  have := width_le text
  omega

theorem takeCells_spec (room : Nat) (text : List Char) :
    ∃ rest, text = takeCells room text ++ rest ∧ cellsAlone (takeCells room text) ≤ room ∧
      ∀ c ∈ rest.head?, room < cellsAlone (takeCells room text) + cells c := by
  induction text generalizing room with
  | nil => exact ⟨[], rfl, Nat.zero_le _, by simp⟩
  | cons c text ih =>
    by_cases fits : cells c ≤ room
    · obtain ⟨rest, whole, most, next⟩ := ih (room - cells c)
      rw [takeCells, if_pos fits]
      refine ⟨rest, congrArg (c :: ·) whole, ?_, fun c' first => ?_⟩
      · simp only [cellsAlone]
        omega
      · have := next c' first
        simp only [cellsAlone]
        omega
    · rw [takeCells, if_neg fits]
      refine ⟨c :: text, rfl, Nat.zero_le _, fun c' first => ?_⟩
      cases first
      simp only [cellsAlone]
      omega

structure IsCut (text : String) (limit : Nat) (result : String) : Prop where
  fits : width result.toList ≤ limit
  whole : result = text ↔ width text.toList ≤ limit
  nothing : limit < width text.toList → limit = 0 → result = ""
  front : limit < width text.toList → 0 < limit →
    ∃ front rest, text.toList = front ++ rest ∧ rest ≠ [] ∧ result.toList = front ++ ['…']

section

variable {text : String} {limit : Nat}

theorem truncate_of_le (short : width text.toList ≤ limit) : truncate text limit = text :=
  if_pos short

theorem truncate_zero (wide : 0 < width text.toList) : truncate text 0 = "" := by
  rw [truncate, if_neg (Nat.not_le.2 wide)]
  rfl

theorem truncate_of_lt (wide : limit < width text.toList) (room : 0 < limit) :
    ∃ front rest, text.toList = front ++ rest ∧ (truncate text limit).toList = front ++ ['…'] ∧
      cellsAlone front < limit ∧ ∀ c ∈ rest.head?, limit ≤ cellsAlone front + cells c := by
  obtain ⟨rest, whole, most, next⟩ := takeCells_spec (limit - 1) text.toList
  refine ⟨takeCells (limit - 1) text.toList, rest, whole, ?_, by omega, fun c first => ?_⟩
  · have some_room : (limit == 0) = false := beq_false_of_ne (Nat.ne_of_gt room)
    rw [truncate, if_neg (Nat.not_le.2 wide), some_room]
    exact String.toList_ofList
  · have := next c first
    omega

theorem mem_truncate {c : Char} (member : c ∈ (truncate text limit).toList) :
    c ∈ text.toList ∨ c = '…' := by
  obtain wide | short := Nat.lt_or_ge limit (width text.toList)
  · obtain rfl | room := Nat.eq_zero_or_pos limit
    · rw [truncate_zero wide] at member
      cases member
    · obtain ⟨front, rest, whole, cut, -⟩ := truncate_of_lt wide room
      rw [cut, List.mem_append, List.mem_singleton] at member
      rw [whole]
      exact member.imp_left (List.mem_append_left rest)
  · rw [truncate_of_le short] at member
    exact .inl member

theorem width_truncate_le :
    width (truncate text limit).toList ≤ limit + (truncate text limit).toList.countP widens := by
  by_cases short : width text.toList ≤ limit
  · rw [truncate_of_le short]
    exact Nat.le_trans short (Nat.le_add_right ..)
  · have wide := Nat.not_le.1 short
    obtain rfl | room := Nat.eq_zero_or_pos limit
    · rw [truncate_zero wide]
      exact Nat.zero_le _
    · obtain ⟨front, rest, -, cut, fits, -⟩ := truncate_of_lt wide room
      have bound := width_le (front ++ ['…'])
      rw [cellsAlone_append, cellsAlone, cells_ellipsis] at bound
      rw [cut]
      simp only [cellsAlone] at bound
      omega

theorem isCut_truncate (narrow : ∀ c ∈ text.toList, ¬ widens c = true) :
    IsCut text limit (truncate text limit) := by
  have none_widens : text.toList.countP widens = 0 := List.countP_eq_zero.2 narrow
  have alone := width_le text.toList
  obtain wide | short := Nat.lt_or_ge limit (width text.toList)
  · -- a limit of no cells leaves no room for the ellipsis either
    obtain rfl | room := Nat.eq_zero_or_pos limit
    · have empty := truncate_zero wide
      refine ⟨?_, ⟨fun whole => ?_, truncate_of_le⟩, fun _ _ => empty, fun _ room => ?_⟩
      · rw [empty]
        exact Nat.le_refl 0
      · rw [← whole, empty]
        exact Nat.le_refl 0
      · cases room
    · obtain ⟨front, rest, whole, cut, few, -⟩ := truncate_of_lt wide room
      have none_of_front : front.countP widens = 0 := by
        rw [whole, List.countP_append] at none_widens
        omega
      have fits : width (truncate text limit).toList ≤ limit := by
        have bound : width (truncate text limit).toList ≤
            limit + (truncate text limit).toList.countP widens := width_truncate_le
        have of_end : ['…'].countP widens = 0 := by decide
        rwa [cut, List.countP_append, none_of_front, of_end, ← cut] at bound
      refine ⟨fits, ⟨fun same => ?_, truncate_of_le⟩, ?_, fun _ _ => ⟨front, rest, whole, ?_, cut⟩⟩
      · rwa [same] at fits
      · rintro - rfl
        cases room
      · rintro rfl
        rw [List.append_nil] at whole
        rw [whole] at alone none_widens wide
        omega
  · rw [truncate_of_le short]
    exact ⟨short, ⟨fun _ => short, fun _ => rfl⟩, fun wide => absurd short (Nat.not_le.2 wide),
      fun wide => absurd short (Nat.not_le.2 wide)⟩

end

/-- However wide a text is, what is cut from it is its longest front that leaves room for the
ellipsis, character by character. It is a cut as it should be unless a character widens the text. -/
theorem truncate_cuts (text : String) (limit : Nat) :
    (width text.toList ≤ limit → truncate text limit = text) ∧
    (limit < width text.toList → limit = 0 → truncate text limit = "") ∧
    (limit < width text.toList → 0 < limit → ∃ front rest,
      text.toList = front ++ rest ∧ (truncate text limit).toList = front ++ ['…'] ∧
        cellsAlone front < limit ∧ ∀ c ∈ rest.head?, limit ≤ cellsAlone front + cells c) ∧
    width (truncate text limit).toList ≤ limit + (truncate text limit).toList.countP widens ∧
    ((∀ c ∈ text.toList, ¬ widens c = true) → IsCut text limit (truncate text limit)) := by
  refine ⟨truncate_of_le, ?_, truncate_of_lt, width_truncate_le, isCut_truncate⟩
  rintro wide rfl
  exact truncate_zero wide

theorem truncate_cuts_disk_full :
    truncate "error: disk full" 8 = "error: …" ∧
      IsCut "error: disk full" 8 (truncate "error: disk full" 8) :=
  ⟨by decide +kernel,
    (truncate_cuts "error: disk full" 8).2.2.2.2 (List.countP_eq_zero.1 (by decide +kernel))⟩

theorem cellsAhead_tab (behind : Behind) : cellsAhead '\t' behind = (1, .plain) := by
  have not_emoji : selectableEmoji.contains '\t' = false :=
    CharSet.contains_eq_false (by decide +kernel)
  cases behind with
  | emojiSelector rest =>
    rw [cellsAhead, not_emoji]
    rfl
  | textSelector rest =>
    rw [cellsAhead, not_emoji]
    rfl
  | _ => rfl

/-- Tabs have no cell alone, but one each in a text: none of them is cut off. -/
theorem truncate_tabs :
    truncate "\t\t" 1 = "\t\t…" ∧ width (truncate "\t\t" 1).toList = 3 ∧
      ¬ IsCut "\t\t" 1 (truncate "\t\t" 1) := by
  have result : truncate "\t\t" 1 = "\t\t…" := by decide +kernel
  have ellipsis : (measured ['…']).1 = 1 := by
    have alone : (measured ['…']).1 = 0 + cells '…' := rfl
    rw [alone, cells_ellipsis]
    rfl
  have total : (measured "\t\t…".toList).1 = 3 := by
    have chars : "\t\t…".toList = ['\t', '\t', '…'] := by decide
    rw [chars, measured_cons, measured_cons, cellsAhead_tab, cellsAhead_tab, ellipsis]
    rfl
  have wide : width "\t\t…".toList = 3 := congrArg Int.toNat total
  rw [result]
  refine ⟨rfl, wide, fun cut => ?_⟩
  have := cut.fits
  omega

end LogQuery.Text

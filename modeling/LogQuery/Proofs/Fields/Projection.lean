import LogQuery.Fields

/-! The columns of a record that a selection shows. Columns are numbered from 1, lists from 0. -/

set_option autoImplicit false

namespace LogQuery

open Text (wordLimit)

variable {columns shown : List String} {number last : Nat} {range : FieldRange}

namespace FieldRange

def members (range : FieldRange) (columns : List String) : List String :=
  ((columns.zipIdx 1).filter fun column => range.contains column.2).map Prod.fst

theorem members_zipIdx (range : FieldRange) (columns : List String) (start : Nat) :
    ((columns.zipIdx start).filter fun column => range.contains column.2).map Prod.fst =
      (columns.take (range.last + 1 - start)).drop (range.first - start) := by
  have ordered := range.first_le_last
  induction columns generalizing start with
  | nil => simp
  | cons column columns ih =>
    have rest := ih (start + 1)
    rw [Nat.add_sub_add_right] at rest
    rw [List.zipIdx_cons, List.filter_cons]
    by_cases before : range.first ≤ start
    · rw [Nat.sub_eq_zero_of_le (Nat.le_succ_of_le before), List.drop_zero] at rest
      rw [Nat.sub_eq_zero_of_le before, List.drop_zero]
      by_cases inside : start ≤ range.last
      · rw [if_pos (by simp [contains, before, inside]), List.map_cons, rest, Nat.succ_sub inside,
          List.take_succ_cons]
      · rw [if_neg (by simp [contains, inside]), rest, Nat.sub_eq_zero_of_le (by omega),
          Nat.sub_eq_zero_of_le (by omega), List.take_zero, List.take_zero]
    · rw [if_neg (by simp [contains, before]), rest,
        show range.last + 1 - start = range.last - start + 1 by omega, List.take_succ_cons,
        show range.first - start = range.first - (start + 1) + 1 by omega, List.drop_succ_cons]

end FieldRange

namespace Selection

theorem columnsIn_eq_members (range : FieldRange) (columns : List String) :
    columnsIn range columns = range.members columns := by
  rw [FieldRange.members, FieldRange.members_zipIdx, Nat.add_sub_cancel]
  rfl

theorem columnsIn_subset (range : FieldRange) (columns : List String) :
    columnsIn range columns ⊆ columns :=
  fun _ member => List.mem_of_mem_take (List.mem_of_mem_drop member)

/-! The loop over the numbers of each range, with every access checked. -/

/-- The column with a number, found at the place before it. There is none at number 0, where that
place is no word, and none behind the last column. -/
def column? (columns : List String) : Nat → Option String
  | 0 => none
  | place + 1 => columns[place]?

/-- Show the columns from a number up to the last one, with one behind the other. None where there
is no such column, or where counting on leaves the words. -/
def showFrom (columns : List String) (last number : Nat) (shown : List String) :
    Option (List String) :=
  if last < number then some shown
  else
    match column? columns number with
    | none => none
    | some column =>
      if number = last then some (shown ++ [column])
      else if number + 1 < wordLimit then showFrom columns last (number + 1) (shown ++ [column])
      else none
termination_by last - number

def showAll (selection : Selection) (columns : List String) : Option (List String) :=
  selection.foldlM
    (fun shown range => showFrom columns (min range.last columns.length) range.first shown) []

theorem column?_succ {place : Nat} (inside : place < columns.length) :
    column? columns (place + 1) = some columns[place] :=
  List.getElem?_eq_getElem inside

theorem showFrom_eq (inside : last ≤ columns.length) (word : last < wordLimit) (start : Nat) :
    showFrom columns last (start + 1) shown = some (shown ++ (columns.take last).drop start) := by
  induction left : last - start generalizing start shown with
  | zero =>
    rw [showFrom, if_pos (by omega), List.drop_eq_nil_of_le (by simp; omega), List.append_nil]
  | succ left ih =>
    have here : start < columns.length := by omega
    have cut : (columns.take last).drop start =
        columns[start] :: (columns.take last).drop (start + 1) := by
      rw [List.drop_eq_getElem_cons (by simp; omega), List.getElem_take]
    rw [showFrom, if_neg (by omega), column?_succ here, cut, List.append_cons]
    dsimp only
    by_cases finished : start + 1 = last
    · rw [if_pos finished, List.drop_eq_nil_of_le (by simp; omega), List.append_nil]
    · rw [if_neg finished, if_pos (by omega), ih (start + 1) (by omega)]

theorem showFrom_range (range : FieldRange) (columns shown : List String) :
    showFrom columns (min range.last columns.length) range.first shown =
      some (shown ++ columnsIn range columns) := by
  have first := Nat.sub_add_cancel range.first_pos
  have word : range.last < wordLimit := Nat.lt_of_le_of_lt range.last_le (by decide)
  rw [← first, showFrom_eq (Nat.min_le_right ..) (Nat.lt_of_le_of_lt (Nat.min_le_left ..) word),
    ← List.take_eq_take_min, columnsIn]

theorem showAll_eq (selection : Selection) (columns : List String) :
    showAll selection columns = some (selection.flatMap (columnsIn · columns)) := by
  have more (selection : Selection) (shown : List String) :
      selection.foldlM
        (fun shown range => showFrom columns (min range.last columns.length) range.first shown)
          shown = some (shown ++ selection.flatMap (columnsIn · columns)) := by
    induction selection generalizing shown with
    | nil => simp
    | cons range selection ih =>
      rw [List.foldlM_cons, showFrom_range, List.flatMap_cons, ← List.append_assoc]
      exact ih _
  exact more selection []

theorem flatMap_columnsIn_of_isAll {selection : Selection} (all : isAll selection = true)
    (counted : columns.length < wordLimit) :
    selection.flatMap (columnsIn · columns) = columns := by
  match selection, all with
  | [only], all =>
    obtain ⟨first, last⟩ : only.first = 1 ∧ only.last = openEnd := by
      simpa [isAll] using all
    have covered : columns.length ≤ openEnd := Nat.le_pred_of_lt counted
    rw [List.flatMap_singleton, columnsIn, first, last, List.take_of_length_le covered]
    rfl

theorem project_eq_flatMap (selection : Selection) (counted : columns.length < wordLimit) :
    project selection columns = selection.flatMap (columnsIn · columns) := by
  rw [project]
  split
  · rename_i all
    exact (flatMap_columnsIn_of_isAll all counted).symm
  · rfl

/-- What is shown are the members of each range, range by range. The loop shows the same for every
selection, the one that is left to no loop included, without a column that is not there or a number
that is no word; and all that is shown is a column of the record. -/
theorem project_eq_members (selection : Selection) (counted : columns.length < wordLimit) :
    project selection columns = selection.flatMap (FieldRange.members · columns) ∧
      showAll selection columns = some (project selection columns) ∧
      project selection columns ⊆ columns := by
  have ranges := project_eq_flatMap selection counted
  refine ⟨?_, ?_, ?_⟩
  · simpa only [columnsIn_eq_members] using ranges
  · rw [showAll_eq, ranges]
  · rw [ranges]
    intro column member
    obtain ⟨range, _, shown⟩ := List.mem_flatMap.1 member
    exact columnsIn_subset range columns shown

theorem project_outOfOrder :
    let selection : Selection :=
      [⟨2, openEnd, by decide, by decide, by decide⟩, ⟨1, 2, by decide, by decide, by decide⟩,
        ⟨7, 9, by decide, by decide, by decide⟩]
    project selection ["a", "b", "c"] = ["b", "c", "a", "b"] ∧
      showAll selection ["a", "b", "c"] = some ["b", "c", "a", "b"] := by
  intro selection
  have counted : ["a", "b", "c"].length < wordLimit := by decide
  obtain ⟨members, loop, _⟩ := project_eq_members selection counted
  have shown : project selection ["a", "b", "c"] = ["b", "c", "a", "b"] := members.trans (by decide)
  exact ⟨shown, loop.trans (congrArg some shown)⟩

end Selection

end LogQuery

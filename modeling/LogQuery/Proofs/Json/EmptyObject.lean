import LogQuery.Json.Reader
import LogQuery.Proofs.Text.Run

/-! Objects in a text without double quotes. Every key stands in double quotes, so the only object
of such a text is the empty one, and the text is two braces with spaces between and around them. -/

set_option autoImplicit false

namespace LogQuery.Json

def Spaces (text : List Char) : Prop := ∀ c ∈ text, isSpace c = true

theorem exists_spaces (text : List Char) : ∃ gap, Spaces gap ∧ text = gap ++ skipSpace text :=
  Text.exists_run isSpace text

theorem skipSpace_spaces {gap : List Char} (spaces : Spaces gap) {c : Char} (other : isSpace c = false)
    (rest : List Char) : skipSpace (gap ++ c :: rest) = c :: rest :=
  Text.dropWhile_stops spaces (Text.stops_cons other rest)

theorem skipSpace_of_spaces {gap : List Char} (spaces : Spaces gap) : skipSpace gap = [] := by
  rw [← List.append_nil gap]
  exact Text.dropWhile_stops spaces (Text.stops_nil _)

/-! ## Other values are no objects -/

theorem Numeral.value?_ne_object (numeral : Numeral) (members : List (String × Value)) :
    numeral.value? ≠ some (.object members) := by
  intro same
  simp only [Numeral.value?] at same
  split at same
  · cases same
  · split at same
    · cases same
    · obtain ⟨x, _, same⟩ := Option.map_eq_some_iff.1 same
      cases same

theorem readItems?_ne_object {fuel depth : Nat} {done : List Value} {text rest : List Char}
    {members : List (String × Value)} :
    readItems? fuel depth done text ≠ some (.object members, rest) := by
  induction fuel generalizing done text with
  | zero => rintro ⟨⟩
  | succ fuel ih =>
    intro same
    unfold readItems? at same
    split at same
    · cases same
    · split at same
      · exact ih same
      · cases same
      · cases same

theorem readMembers?_unquoted {fuel depth : Nat} {done : List (String × Value)} {text : List Char}
    (unquoted : '"' ∉ text) : readMembers? fuel depth done text = none := by
  cases fuel with
  | zero => rfl
  | succ fuel =>
    obtain ⟨gap, _, cut⟩ := exists_spaces text
    unfold readMembers?
    split
    · next front =>
      rw [cut, front] at unquoted
      simp at unquoted
    · rfl

theorem readValue?_object {fuel depth : Nat} {text rest : List Char} {members : List (String × Value)}
    (unquoted : '"' ∉ text) (read : readValue? fuel depth text = some (.object members, rest)) :
    members = [] ∧ ∃ gap, Spaces gap ∧ skipSpace text = '{' :: (gap ++ '}' :: rest) := by
  cases fuel with
  | zero => cases read
  | succ fuel =>
    obtain ⟨lead, _, cut⟩ := exists_spaces text
    -- of all beginnings of a value only an opening brace leads to an object
    unfold readValue? at read
    split at read
    · cases read
    · cases read
    · cases read
    · next front =>
      rw [cut, front] at unquoted
      simp at unquoted
    · split at read
      · cases read
      · split at read
        · cases read
        · exact absurd read readItems?_ne_object
    · next behind front =>
      obtain ⟨gap, spaces, cutBehind⟩ := exists_spaces behind
      split at read
      · cases read
      · split at read
        · next last =>
          cases read
          refine ⟨rfl, gap, spaces, ?_⟩
          rw [front, cutBehind, last]
        · have unquotedBehind : '"' ∉ skipSpace behind := by
            rw [cut, front, cutBehind] at unquoted
            simp only [List.mem_append, List.mem_cons, not_or] at unquoted
            exact unquoted.2.2.2
          rw [readMembers?_unquoted unquotedBehind] at read
          cases read
    · obtain ⟨⟨numeral, behind⟩, _, value⟩ := Option.bind_eq_some_iff.1 read
      obtain ⟨value, isValue, same⟩ := Option.bind_eq_some_iff.1 value
      cases same
      exact absurd isValue (numeral.value?_ne_object members)

/-- A text without double quotes is an object only if it is the empty one. -/
theorem parse?_object_iff {text : List Char} (unquoted : '"' ∉ text) (members : List (String × Value)) :
    Value.parse? text = some (.object members) ↔
      members = [] ∧ ∃ before gap after, Spaces before ∧ Spaces gap ∧ Spaces after ∧
        text = before ++ '{' :: (gap ++ '}' :: after) := by
  constructor
  · intro parsed
    unfold Value.parse? at parsed
    split at parsed
    · next value rest read =>
      split at parsed
      · next blank =>
        cases parsed
        obtain ⟨none, gap, spaces, front⟩ := readValue?_object unquoted read
        obtain ⟨before, spacesBefore, cut⟩ := exists_spaces text
        obtain ⟨after, spacesAfter, cutAfter⟩ := exists_spaces rest
        rw [List.isEmpty_iff.1 blank, List.append_nil] at cutAfter
        subst cutAfter
        exact ⟨none, before, gap, _, spacesBefore, spaces, spacesAfter, cut.trans (by rw [front])⟩
      · cases parsed
    · cases parsed
  · rintro ⟨rfl, before, gap, after, spacesBefore, spaces, spacesAfter, rfl⟩
    have opened := skipSpace_spaces spacesBefore (show isSpace '{' = false from rfl) (gap ++ '}' :: after)
    have closed := skipSpace_spaces spaces (show isSpace '}' = false from rfl) after
    have value (fuel : Nat) : readValue? (fuel + 1) depthLimit (before ++ '{' :: (gap ++ '}' :: after)) =
        some (.object [], after) := by
      unfold readValue?
      rw [opened]
      simp only [closed]
      rfl
    unfold Value.parse?
    simp only [value, skipSpace_of_spaces spacesAfter]
    rfl

end LogQuery.Json

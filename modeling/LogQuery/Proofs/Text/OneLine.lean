import LogQuery.Proofs.Text.Run
import LogQuery.Proofs.Text.Split
import LogQuery.Text.Basic

/-! Texts without a line feed. -/

set_option autoImplicit false

namespace LogQuery.Text

def IsOneLine (text : String) : Prop := '\n' ∉ text.toList

instance (text : String) : Decidable (IsOneLine text) :=
  inferInstanceAs (Decidable ('\n' ∉ text.toList))

def lineFeeds (text : String) : Nat := text.toList.count '\n'

variable {text front rest : String}

theorem lineFeeds_eq_zero : lineFeeds text = 0 ↔ IsOneLine text := List.count_eq_zero

theorem lineFeeds_append : lineFeeds (front ++ rest) = lineFeeds front + lineFeeds rest := by
  rw [lineFeeds, String.toList_append, List.count_append]
  rfl

theorem isOneLine_append : IsOneLine (front ++ rest) ↔ IsOneLine front ∧ IsOneLine rest := by
  rw [IsOneLine, String.toList_append, List.mem_append, not_or]
  rfl

theorem isOneLine_ofList {chars : List Char} : IsOneLine (String.ofList chars) ↔ '\n' ∉ chars := by
  rw [IsOneLine, String.toList_ofList]

theorem isOneLine_intercalate {gap : String} {texts : List String} (single : IsOneLine gap)
    (each : ∀ text ∈ texts, IsOneLine text) : IsOneLine (gap.intercalate texts) := by
  intro fed
  rw [String.toList_intercalate] at fed
  obtain gap | within := mem_of_mem_intercalate fed
  · exact single gap
  · obtain ⟨chars, among, fed⟩ := List.mem_flatten.1 within
    obtain ⟨text, listed, rfl⟩ := List.mem_map.1 among
    exact each text listed fed

theorem isOneLine_join {texts : List String} :
    IsOneLine (String.join texts) ↔ ∀ text ∈ texts, IsOneLine text := by
  simp only [IsOneLine, String.toList_join, List.mem_flatMap, not_exists, not_and]

theorem isOneLine_padLeft {width : Nat} {fill : Char} (other : fill ≠ '\n') (single : IsOneLine text) :
    IsOneLine (padLeft width fill text) := by
  rw [padLeft, isOneLine_append, isOneLine_ofList]
  exact ⟨fun fed => other (List.eq_of_mem_replicate fed).symm, single⟩

theorem isOneLine_toString (n : Nat) : IsOneLine (toString n) := by
  intro fed
  have digit : '\n'.isDigit = true := by
    refine isDigit_of_mem_toDigits (n := n) _ ?_
    rw [← Nat.toList_repr]
    exact fed
  cases digit

end LogQuery.Text

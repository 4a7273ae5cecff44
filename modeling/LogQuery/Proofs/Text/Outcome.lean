import Mathlib.Data.List.Forall2

/-! Readers that succeed or fail, one behind the other. -/

set_option autoImplicit false

namespace LogQuery.Text

variable {α β ε : Type}

theorem bind_eq_ok_iff {first : Except ε α} {next : α → Except ε β} {value : β} :
    first >>= next = .ok value ↔ ∃ between, first = .ok between ∧ next between = .ok value := by
  cases first with
  | error cause => exact ⟨by rintro ⟨⟩, by rintro ⟨_, ⟨⟩, _⟩⟩
  | ok between =>
    constructor
    · exact fun run => ⟨between, rfl, run⟩
    · rintro ⟨_, ⟨⟩, run⟩
      exact run

theorem map_eq_ok_iff {first : Except ε α} {f : α → β} {value : β} :
    first.map f = .ok value ↔ ∃ between, first = .ok between ∧ f between = value := by
  cases first with
  | error cause => exact ⟨by rintro ⟨⟩, by rintro ⟨_, ⟨⟩, _⟩⟩
  | ok between =>
    constructor
    · rintro ⟨⟩
      exact ⟨between, rfl, rfl⟩
    · rintro ⟨_, ⟨⟩, rfl⟩
      rfl

/-- A list is read item by item, and not at all if one of them is not. -/
theorem mapM_eq_ok_iff {read : α → Except ε β} {items : List α} {values : List β} :
    items.mapM read = .ok values ↔
      List.Forall₂ (fun value item => read item = .ok value) values items := by
  induction items generalizing values with
  | nil =>
    rw [List.mapM_nil, List.forall₂_nil_right_iff]
    exact ⟨by rintro ⟨⟩; rfl, by rintro rfl; rfl⟩
  | cons item items ih =>
    rw [List.mapM_cons, bind_eq_ok_iff]
    simp only [bind_eq_ok_iff, ih]
    constructor
    · rintro ⟨value, first, rest, further, ⟨⟩⟩
      exact .cons first further
    · rintro (_ | ⟨first, further⟩)
      exact ⟨_, first, _, further, rfl⟩

end LogQuery.Text

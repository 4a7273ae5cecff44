import LogQuery.Source.Library
import Mathlib.Data.List.Induction

/-! Values that take each other's place: what is put under a key, and what the last giver gives. -/

set_option autoImplicit false

namespace LogQuery

/-! ### Lists in the order of their keys -/

section

variable {β : Type} {key other : String} {value : β} {list : List (String × β)}

theorem isSome_lookup_iff : (list.lookup key).isSome = true ↔ key ∈ list.map (·.1) := by
  simp only [List.lookup_isSome_iff, List.mem_map, beq_iff_eq, eq_comm (a := key)]

theorem lookup_putInOrder : (putInOrder key value list).lookup other =
    if other = key then some value else list.lookup other := by
  induction list with
  | nil => by_cases same : other = key <;> simp [putInOrder, same]
  | cons first rest ih =>
    obtain ⟨held, content⟩ := first
    rw [putInOrder]
    split
    · rw [List.lookup_cons]
      by_cases same : other = key <;> simp [same, beq_eq_false_iff_ne.2]
    · split
      · next here =>
        subst here
        rw [List.lookup_cons, List.lookup_cons]
        by_cases same : other = key <;> simp [same, beq_eq_false_iff_ne.2]
      · next elsewhere =>
        rw [List.lookup_cons, ih, List.lookup_cons]
        by_cases same : other = key
        · subst same
          simp [beq_eq_false_iff_ne.2 elsewhere]
        · rw [if_neg same, if_neg same]

theorem mem_keys_putInOrder :
    other ∈ (putInOrder key value list).map (·.1) ↔ other = key ∨ other ∈ list.map (·.1) := by
  rw [← isSome_lookup_iff, ← isSome_lookup_iff, lookup_putInOrder]
  by_cases same : other = key <;> simp [same]

theorem pairwise_putInOrder (ordered : (list.map (·.1)).Pairwise (· < ·)) :
    ((putInOrder key value list).map (·.1)).Pairwise (· < ·) := by
  induction list with
  | nil => exact List.pairwise_singleton ..
  | cons first rest ih =>
    obtain ⟨held, content⟩ := first
    obtain ⟨least, later⟩ := List.pairwise_cons.1 ordered
    rw [putInOrder]
    split
    · next less =>
      refine List.pairwise_cons.2 ⟨fun other member => ?_, ordered⟩
      rcases List.mem_cons.1 member with rfl | member
      · exact less
      · exact String.lt_trans less (least other member)
    · next notLess =>
      split
      · next same => exact List.pairwise_cons.2 ⟨same ▸ least, later⟩
      · next differ =>
        refine List.pairwise_cons.2 ⟨fun other member => ?_, ih later⟩
        rcases mem_keys_putInOrder.1 member with rfl | member
        · exact Decidable.by_contra fun notMore =>
            differ (String.le_antisymm (String.not_lt.1 notMore) (String.not_lt.1 notLess))
        · exact least other member

theorem lookup_foldl_putInOrder {later : List (String × β)} (apart : (later.map (·.1)).Nodup) :
    (later.foldl (fun list (key, value) => putInOrder key value list) list).lookup key =
      (later.lookup key).or (list.lookup key) := by
  induction later generalizing list with
  | nil => rfl
  | cons first later ih =>
    obtain ⟨held, content⟩ := first
    obtain ⟨absent, apart⟩ := List.nodup_cons.1 apart
    rw [List.foldl_cons, ih apart, lookup_putInOrder, List.lookup_cons]
    by_cases same : key = held
    · subst same
      have none_later : later.lookup key = none := by
        rw [← Option.not_isSome_iff_eq_none, isSome_lookup_iff]
        exact absent
      simp [none_later]
    · simp [same, beq_eq_false_iff_ne.2 same]

end

/-! ### The last that has a value -/

section

variable {α β State : Type} {value? : α → Option β} {givers : List α} {value : β}

def LastGives (value? : α → Option β) (givers : List α) (value : β) : Prop :=
  ∃ before giver after, givers = before ++ giver :: after ∧ value? giver = some value ∧
    ∀ later ∈ after, value? later = none

theorem lastGives_concat {giver : α} : LastGives value? (givers ++ [giver]) value ↔
    value? giver = some value ∨ value? giver = none ∧ LastGives value? givers value := by
  constructor
  · rintro ⟨before, other, after, same, gives, silent⟩
    cases after using List.reverseRecOn with
    | nil =>
      obtain ⟨rfl, rfl⟩ := List.append_singleton_inj.1 same
      exact .inl gives
    | append_singleton after last =>
      rw [← List.cons_append, ← List.append_assoc] at same
      obtain ⟨rfl, rfl⟩ := List.append_singleton_inj.1 same
      refine .inr ⟨silent giver (List.mem_append_right _ (List.mem_singleton_self _)), ?_⟩
      exact ⟨before, other, after, rfl, gives, fun later member =>
        silent later (List.mem_append_left _ member)⟩
  · rintro (gives | ⟨silent, before, other, after, rfl, gives, silentAfter⟩)
    · exact ⟨givers, giver, [], rfl, gives, fun _ member => absurd member List.not_mem_nil⟩
    · refine ⟨before, other, after ++ [giver], by simp, gives, fun later member => ?_⟩
      rcases List.mem_append.1 member with member | member
      · exact silentAfter later member
      · rw [List.mem_singleton.1 member]
        exact silent

/-- A state that takes over what each giver has, and else keeps what it holds, holds what the last
giver gave, or from the beginning where none gave anything. -/
theorem foldl_overrides {isProper : State → Prop} {held? : State → Option β}
    {take : State → α → State}
    (overrides : ∀ state giver, isProper state →
      isProper (take state giver) ∧ held? (take state giver) = (value? giver).or (held? state))
    {start : State} (proper : isProper start) (givers : List α) :
    isProper (givers.foldl take start) ∧
      ∀ value, held? (givers.foldl take start) = some value ↔
        LastGives value? givers value ∨
          (∀ giver ∈ givers, value? giver = none) ∧ held? start = some value := by
  -- by the last giver, since it decides before all others
  induction givers using List.reverseRecOn with
  | nil =>
    refine ⟨proper, fun value => ?_⟩
    simp [LastGives]
  | append_singleton givers giver ih =>
    obtain ⟨properBefore, heldBefore⟩ := ih
    rw [List.foldl_append, List.foldl_cons, List.foldl_nil]
    obtain ⟨properAfter, takes⟩ := overrides _ giver properBefore
    refine ⟨properAfter, fun value => ?_⟩
    rw [takes, lastGives_concat]
    cases gives : value? giver with
    | none =>
      rw [Option.none_or, heldBefore]
      simp [or_imp, forall_and, gives]
    | some given =>
      have notSilent : ¬ ∀ other ∈ givers ++ [giver], value? other = none := fun silent => by
        rw [silent giver (List.mem_append_right _ (List.mem_singleton_self _))] at gives
        cases gives
      simp only [Option.some_or, notSilent, false_and, or_false, reduceCtorEq]

end

end LogQuery

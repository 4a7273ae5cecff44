import LogQuery.Files.Walk
import LogQuery.Proofs.Files.Path
import Mathlib.Data.List.Induction
import Mathlib.Data.List.Nodup

/-! Walks through a tree of directories and files.

Where nothing is a link, a walk meets the files that are not too far down, each of them once: it is
at the end of one way of names only. -/

set_option autoImplicit false

namespace LogQuery

theorem lookup_eq_some_iff_mem {α β : Type} [BEq α] [LawfulBEq α] {list : List (α × β)}
    (apart : (list.map (·.1)).Nodup) {key : α} {value : β} :
    list.lookup key = some value ↔ (key, value) ∈ list := by
  induction list with
  | nil => simp
  | cons first list ih =>
    obtain ⟨other, held⟩ := first
    rw [List.map_cons, List.nodup_cons] at apart
    rw [List.lookup_cons, List.mem_cons, Prod.mk.injEq]
    by_cases same : key = other
    · subst same
      have absent : (key, value) ∉ list := fun member =>
        apart.1 (List.mem_map.2 ⟨_, member, rfl⟩)
      simp [absent, eq_comm]
    · simp [same, beq_eq_false_iff_ne.2 same, ih apart.2]

namespace Disk

def Entry.isLink : Entry → Bool
  | .link _ => true
  | _ => false

/-- Are there directories and files only, each in a place of its own, in a directory and under a
name? -/
structure IsTree (disk : Disk) : Prop where
  apart : (disk.entries.map (·.1)).Nodup
  held : ∀ entry ∈ disk.entries, disk.entry? entry.1.dropLast = some .directory
  named : ∀ entry ∈ disk.entries, ∀ name ∈ entry.1, Path.IsName name
  unlinked : ∀ entry ∈ disk.entries, entry.2.isLink = false

def metUnder (disk : Disk) (depth : Nat) (position : Position) (name : String) : List Sighting :=
  match disk.entry? (position.place ++ [name]) with
  | some (.file _) => [⟨Path.join position.path name, position.within, name⟩]
  | some .directory => disk.walkFrom depth (position.below name (position.place ++ [name]))
  | _ => []

variable {disk : Disk}

theorem mem_namesIn {place : Place} {name : String} :
    name ∈ disk.namesIn place ↔ ∃ entry, (place ++ [name], entry) ∈ disk.entries := by
  rw [namesIn, List.mem_mergeSort, List.mem_filterMap]
  constructor
  · rintro ⟨⟨whole, entry⟩, member, told⟩
    rw [Option.ite_none_right_eq_some, beq_iff_eq] at told
    obtain ⟨rfl, last⟩ := told
    rw [List.dropLast_append_getLast? name last]
    exact ⟨entry, member⟩
  · rintro ⟨entry, member⟩
    exact ⟨_, member, by simp⟩

namespace IsTree

variable (tree : disk.IsTree)

include tree

theorem nodup_namesIn (place : Place) : (disk.namesIn place).Nodup := by
  have told : disk.namesIn place = ((disk.entries.map (·.1)).filterMap fun entry =>
      if entry.dropLast == place then entry.getLast? else none).mergeSort := by
    rw [List.filterMap_map]
    rfl
  rw [told, (List.mergeSort_perm _ _).nodup_iff]
  refine tree.apart.filterMap fun one other name told toldOther => ?_
  simp only [Option.mem_def, Option.ite_none_right_eq_some, beq_iff_eq] at told toldOther
  rw [← List.dropLast_append_getLast? name told.2, told.1,
    ← List.dropLast_append_getLast? name toldOther.2, toldOther.1]

theorem stands_iff {place : Place} {name : String} {entry : Entry} :
    disk.entry? (place ++ [name]) = some entry ↔ (place ++ [name], entry) ∈ disk.entries := by
  unfold entry?
  rw [if_neg (by simp)]
  exact lookup_eq_some_iff_mem tree.apart

theorem directory_above {place way : Place} {name last : String} {entry : Entry}
    (stands : (place ++ [name] ++ way ++ [last], entry) ∈ disk.entries) :
    disk.entry? (place ++ [name]) = some .directory := by
  have around := tree.held _ stands
  rw [List.dropLast_concat] at around
  induction way using List.reverseRecOn generalizing last entry with
  | nil => rwa [List.append_nil] at around
  | append_singleton way middle ih =>
    rw [← List.append_assoc, tree.stands_iff] at around
    have further := tree.held _ around
    rw [List.dropLast_concat] at further
    exact ih around further

theorem named_way {place way : Place} {name : String} {entry : Entry}
    (stands : (place ++ way ++ [name], entry) ∈ disk.entries) :
    ∀ other ∈ way ++ [name], Path.IsName other := by
  rw [List.append_assoc] at stands
  exact fun other member => tree.named _ stands other (List.mem_append_right _ member)

theorem walkFrom_succ (depth : Nat) (position : Position) :
    disk.walkFrom (depth + 1) position =
      (disk.namesIn position.place).flatMap (disk.metUnder depth position) := by
  rw [walkFrom]
  refine List.flatMap_congr fun name _ => ?_
  dsimp only [metUnder]
  cases found : disk.entry? (position.place ++ [name]) with
  | none => rfl
  | some entry =>
    cases entry with
    | directory => rfl
    | file data => rfl
    | link target =>
      have linked := tree.unlinked _ (tree.stands_iff.1 found)
      cases linked

/-- A walk meets the files that fewer directories than its depth lead to. -/
theorem mem_walkFrom {depth : Nat} {position : Position} {met : Sighting} :
    met ∈ disk.walkFrom depth position ↔ ∃ way name data,
      (position.place ++ way ++ [name], .file data) ∈ disk.entries ∧ way.length < depth ∧
        met = ⟨Path.descend position.path (way ++ [name]), position.within ++ way, name⟩ := by
  induction depth generalizing position with
  | zero =>
    rw [walkFrom]
    exact iff_of_false List.not_mem_nil fun ⟨_, _, _, _, short, _⟩ => Nat.not_lt_zero _ short
  | succ depth ih =>
    rw [tree.walkFrom_succ, List.mem_flatMap]
    constructor
    · rintro ⟨name, -, under⟩
      rw [metUnder] at under
      split at under
      · next data found =>
        rw [List.mem_singleton.1 under]
        refine ⟨[], name, data, ?_, Nat.succ_pos depth, ?_⟩
        · rw [List.append_nil]
          exact tree.stands_iff.1 found
        · rw [List.append_nil]
          rfl
      · obtain ⟨way, last, data, stands, short, rfl⟩ := ih.1 under
        refine ⟨name :: way, last, data, ?_, Nat.succ_lt_succ short, ?_⟩
        · rwa [List.append_cons position.place]
        · rw [List.append_cons position.within]
          rfl
      · cases under
    · rintro ⟨way, last, data, stands, short, rfl⟩
      cases way with
      | nil =>
        rw [List.append_nil] at stands ⊢
        refine ⟨last, mem_namesIn.2 ⟨_, stands⟩, ?_⟩
        rw [metUnder, tree.stands_iff.2 stands]
        exact List.mem_singleton_self _
      | cons name way =>
        -- the first name on the way is that of a directory, and the walk goes on in it
        rw [List.append_cons position.place] at stands
        have directory := tree.directory_above stands
        refine ⟨name, mem_namesIn.2 ⟨_, tree.stands_iff.1 directory⟩, ?_⟩
        rw [metUnder, directory]
        refine ih.2 ⟨way, last, data, stands, Nat.lt_of_succ_lt_succ short, ?_⟩
        rw [List.append_cons position.within]
        rfl

/-- The way to what is met under a name goes through that name. -/
theorem route_metUnder {depth : Nat} {position : Position} {name : String} {met : Sighting}
    (under : met ∈ disk.metUnder depth position name) :
    ∃ rest, met.within ++ [met.name] = position.within ++ name :: rest := by
  rw [metUnder] at under
  split at under
  · rw [List.mem_singleton.1 under]
    exact ⟨[], rfl⟩
  · obtain ⟨way, last, _, _, _, rfl⟩ := tree.mem_walkFrom.1 under
    refine ⟨way ++ [last], ?_⟩
    rw [List.append_cons position.within]
    exact List.append_assoc _ _ _
  · cases under

theorem nodup_walkFrom (depth : Nat) (position : Position) :
    ((disk.walkFrom depth position).map fun met => met.within ++ [met.name]).Nodup := by
  induction depth generalizing position with
  | zero => exact List.nodup_nil
  | succ depth ih =>
    rw [tree.walkFrom_succ, List.map_flatMap, List.nodup_flatMap]
    constructor
    · intro name _
      rw [metUnder]
      split
      · exact List.nodup_singleton _
      · exact ih _
      · exact List.nodup_nil
    · refine (tree.nodup_namesIn _).imp fun {name other} differ route underName underOther => ?_
      obtain ⟨met, under, rfl⟩ := List.mem_map.1 underName
      obtain ⟨metOther, underOther, same⟩ := List.mem_map.1 underOther
      -- ways through two names part at these names
      obtain ⟨rest, through⟩ := tree.route_metUnder under
      obtain ⟨restOther, throughOther⟩ := tree.route_metUnder underOther
      rw [through, throughOther] at same
      exact differ (List.cons.inj (List.append_cancel_left same)).1.symm

section

variable {path : String} {place : Place} (found : disk.find path = .ok place)
  (isDirectory : disk.entry? place = some .directory)

include found isDirectory

omit tree in
theorem walk_eq (depth : Nat) : disk.walk depth path =
    disk.walkFrom depth { path, place, around := [place] } := by
  rw [walk, found]
  dsimp only
  rw [isDirectory]

theorem mem_walk {depth : Nat} {met : Sighting} :
    met ∈ disk.walk depth path ↔ ∃ way name data,
      (place ++ way ++ [name], .file data) ∈ disk.entries ∧ way.length < depth ∧
        met = ⟨Path.descend path (way ++ [name]), way, name⟩ := by
  rw [walk_eq found isDirectory, tree.mem_walkFrom]
  rfl

theorem nodup_walk (depth : Nat) : ((disk.walk depth path).map (·.path)).Nodup := by
  have nonempty : path ≠ "" := by
    rintro rfl
    cases found
  rw [walk_eq found isDirectory]
  have routes := tree.nodup_walkFrom depth { path, place, around := [place] }
  rw [List.nodup_map_iff_inj_on routes.of_map]
  intro met among other amongOther same
  refine List.inj_on_of_nodup_map routes among amongOther ?_
  obtain ⟨way, name, _, stands, _, rfl⟩ := tree.mem_walkFrom.1 among
  obtain ⟨wayOther, nameOther, _, standsOther, _, rfl⟩ := tree.mem_walkFrom.1 amongOther
  exact Path.descend_inj nonempty (tree.named_way stands) (tree.named_way standsOther) same

end

end IsTree

end Disk

end LogQuery

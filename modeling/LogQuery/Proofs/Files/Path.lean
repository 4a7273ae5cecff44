import Mathlib.Data.List.Basic
import LogQuery.Files.Disk
import LogQuery.Proofs.Text.Split

/-! Paths of what stands below a directory. They end with the names on the way there, so the way is
told from the path. -/

set_option autoImplicit false

namespace LogQuery.Path

theorem isAbsolute_iff {path : String} :
    isAbsolute path = true ↔ path.toList.head? = some '/' := by
  rw [isAbsolute, String.startsWith_string_iff]
  change ['/'] <+: path.toList ↔ _
  cases path.toList with
  | nil => simp
  | cons c rest => simp [eq_comm]

theorem endsWith_iff {path : String} :
    path.endsWith "/" = true ↔ path.toList.getLast? = some '/' := by
  rw [String.endsWith_eq_endsWith_toSlice, String.Slice.endsWith_string_iff, String.copy_toSlice]
  change ['/'] <:+ path.toList ↔ _
  rw [List.getLast?_eq_some_iff]
  exact ⟨fun ⟨front, same⟩ => ⟨front, same.symm⟩, fun ⟨front, same⟩ => ⟨front, same.symm⟩⟩

/-- Of two names that are both relative, or both from the root, each has its own path. -/
theorem join_inj {directory name other : String} (alike : isAbsolute name = isAbsolute other)
    (same : join directory name = join directory other) : name = other := by
  rw [join, join, ← alike] at same
  by_cases stays : (isAbsolute name || directory.isEmpty) = true
  · rwa [if_pos stays, if_pos stays] at same
  · rw [if_neg stays, if_neg stays] at same
    split at same <;> exact (String.append_right_inj _).1 same

/-! ### Ways down -/

structure IsName (name : String) : Prop where
  nonempty : name ≠ ""
  single : '/' ∉ name.toList

instance (name : String) : Decidable (IsName name) :=
  decidable_of_iff (name ≠ "" ∧ '/' ∉ name.toList)
    ⟨fun both => ⟨both.1, both.2⟩, fun isName => ⟨isName.nonempty, isName.single⟩⟩

def descend (directory : String) (names : List String) : String := names.foldl join directory

def inside (directory : String) : String :=
  if directory.endsWith "/" then directory else directory ++ "/"

section

variable {directory name : String} (isName : IsName name) (nonempty : directory ≠ "")

include isName

theorem IsName.toList_ne_nil : name.toList ≠ [] := mt String.toList_eq_nil_iff.1 isName.nonempty

theorem IsName.isAbsolute : Path.isAbsolute name = false := by
  rw [Bool.eq_false_iff]
  exact fun absolute => isName.single (List.mem_of_mem_head? (isAbsolute_iff.1 absolute))

theorem inside_append (front : String) : inside (front ++ name) = front ++ name ++ "/" := by
  rw [inside, if_neg]
  rw [endsWith_iff, String.toList_append, List.getLast?_append_of_ne_nil _ isName.toList_ne_nil]
  exact fun isLast => isName.single (List.mem_of_getLast? isLast)

include nonempty

theorem join_eq : join directory name = inside directory ++ name := by
  have relative : (isAbsolute name || directory.isEmpty) = false := by
    rw [isName.isAbsolute, Bool.false_or, Bool.eq_false_iff]
    exact mt String.isEmpty_iff.1 nonempty
  rw [join, if_neg (Bool.eq_false_iff.1 relative), inside]
  split <;> rfl

theorem join_ne_empty : join directory name ≠ "" := by
  rw [join_eq isName nonempty]
  intro empty
  have none_there := congrArg String.toList empty
  rw [String.toList_append] at none_there
  exact isName.toList_ne_nil (List.append_eq_nil_iff.1 none_there).2

theorem inside_join : inside (join directory name) = inside directory ++ name ++ "/" := by
  rw [join_eq isName nonempty, inside_append isName]

end

theorem toList_inside_descend {directory : String} (nonempty : directory ≠ "")
    {names : List String} (proper : ∀ name ∈ names, IsName name) :
    (inside (descend directory names)).toList =
      (inside directory).toList ++ Text.terminated '/' (names.map (·.toList)) := by
  induction names generalizing directory with
  | nil => exact (List.append_nil _).symm
  | cons name names ih =>
    rw [List.forall_mem_cons] at proper
    rw [descend, List.foldl_cons]
    have behind := ih (join_ne_empty proper.1 nonempty) proper.2
    rw [descend] at behind
    rw [behind, inside_join proper.1 nonempty, List.map_cons, Text.terminated_cons]
    simp [String.toList_append]

theorem single_of_isName {names : List String} (proper : ∀ name ∈ names, IsName name) :
    ∀ part ∈ names.map (·.toList), '/' ∉ part := by
  rw [List.forall_mem_map]
  exact fun name member => (proper name member).single

/-- What stands below a directory is told from its path. -/
theorem descend_inj {directory : String} (nonempty : directory ≠ "") {names others : List String}
    (proper : ∀ name ∈ names, IsName name) (properOthers : ∀ name ∈ others, IsName name)
    (same : descend directory names = descend directory others) : names = others := by
  have texts := congrArg (fun path => (inside path).toList) same
  simp only [toList_inside_descend nonempty proper, toList_inside_descend nonempty properOthers]
    at texts
  have parts := Text.terminated_inj (single_of_isName proper) (single_of_isName properOthers)
    (List.append_cancel_left texts)
  exact (List.map_inj_right fun _ _ => String.toList_injective).1 parts

theorem intercalate_inj {names others : List String} (nonempty : names ≠ [])
    (nonemptyOthers : others ≠ []) (proper : ∀ name ∈ names, IsName name)
    (properOthers : ∀ name ∈ others, IsName name) :
    "/".intercalate names = "/".intercalate others ↔ names = others := by
  refine ⟨fun same => ?_, fun same => same ▸ rfl⟩
  have parts := Text.terminated_inj (single_of_isName proper) (single_of_isName properOthers) <| by
    have slash : "/".toList = ['/'] := by decide
    rw [← Text.toList_intercalate slash nonempty, ← Text.toList_intercalate slash nonemptyOthers,
      same]
  exact (List.map_inj_right fun _ _ => String.toList_injective).1 parts

end LogQuery.Path

import LogQuery.Proofs.Tally.Counting
import LogQuery.Proofs.Text.Split

/-! Which records a table counts together.

A key closes each column with a NUL. So it tells the pieces that NULs cut the columns into, and it
tells the columns if there are no NULs in them.
-/

set_option autoImplicit false

namespace LogQuery.Tally

def pieces (columns : List String) : List (List Char) :=
  columns.flatMap fun column => Text.splitAt '\x00' column.toList

def IsFree (columns : List String) : Prop := ∀ column ∈ columns, '\x00' ∉ column.toList

/-! ## Keys -/

theorem toList_key (record : Record) :
    record.key.toList = Text.terminated '\x00' (pieces record.columns) := by
  rw [Record.key, String.toList_join, pieces, Text.terminated, List.flatMap_assoc, List.flatMap_map]
  congr 1
  funext column
  rw [String.toList_append]
  exact (Text.terminated_splitAt column.toList).symm

theorem key_eq_iff {a b : Record} : a.key = b.key ↔ pieces a.columns = pieces b.columns := by
  have free (columns : List String) : ∀ piece ∈ pieces columns, '\x00' ∉ piece := by
    intro piece member
    obtain ⟨column, -, member⟩ := List.mem_flatMap.1 member
    exact Text.not_mem_of_mem_splitAt member
  rw [← String.toList_inj, toList_key, toList_key]
  exact ⟨Text.terminated_inj (free _) (free _), congrArg _⟩

theorem IsFree.pieces_eq {columns : List String} (free : IsFree columns) :
    pieces columns = columns.map String.toList := by
  induction columns with
  | nil => rfl
  | cons column columns ih =>
    rw [IsFree, List.forall_mem_cons] at free
    rw [pieces, List.flatMap_cons, Text.splitAt_of_not_mem free.1, ← pieces, ih free.2]
    rfl

theorem IsFree.key_eq_iff {a b : Record} (freeA : IsFree a.columns) (freeB : IsFree b.columns) :
    a.key = b.key ↔ a.columns = b.columns := by
  rw [Tally.key_eq_iff, freeA.pieces_eq, freeB.pieces_eq]
  exact ⟨fun same => (List.map_inj_right fun _ _ => String.toList_inj.1).1 same, congrArg _⟩

/-! ## Entries -/

/-- There is one entry for all records of whose columns the same is told, and it counts them. -/
structure CountsBy {α : Type} [DecidableEq α] (told : List String → α) (tally : Tally)
    (records : List Record) : Prop where
  distinct : (tally.entries.toList.map fun entry => told entry.columns).Nodup
  found : ∀ record ∈ records, ∃ entry ∈ tally.entries.toList,
    told entry.columns = told record.columns
  source : ∀ entry ∈ tally.entries.toList, ∃ record ∈ records, record.columns = entry.columns
  count : ∀ entry ∈ tally.entries.toList,
    entry.count = records.countP fun record => told record.columns = told entry.columns

section

variable {tally : Tally} {records : List Record}

theorem Accounts.exists_source (accounts : Accounts tally records) {entry : Entry}
    (member : entry ∈ tally.entries.toList) :
    ∃ record ∈ records, record.columns = entry.columns ∧ record.key = entry.key := by
  obtain ⟨first, found, columns⟩ :=
    Option.map_eq_some_iff.1 (accounts.describes entry member).columns
  exact ⟨first, List.mem_of_find?_eq_some found, columns, beq_iff_eq.1 (List.find?_some found :)⟩

theorem Accounts.countsBy {α : Type} [DecidableEq α] {told : List String → α}
    (accounts : Accounts tally records)
    (faithful : ∀ a ∈ records, ∀ b ∈ records, a.key = b.key ↔ told a.columns = told b.columns) :
    CountsBy told tally records where
  distinct := by
    rw [List.Nodup, List.pairwise_map]
    -- two entries of which the same is told would have one key, and so one rank
    refine accounts.entries_order.imp_of_mem fun {a b} memberA memberB less same => ?_
    obtain ⟨first, inA, columnsA, keyA⟩ := accounts.exists_source memberA
    obtain ⟨second, inB, columnsB, keyB⟩ := accounts.exists_source memberB
    rw [← columnsA, ← columnsB, ← faithful first inA second inB, keyA, keyB] at same
    rw [same] at less
    exact Nat.lt_irrefl _ less
  found record member := by
    obtain ⟨entry, isEntry, key⟩ :=
      List.mem_map.1 ((accounts.keys record.key).2 (List.mem_map_of_mem member))
    obtain ⟨first, isFirst, columns, sameKey⟩ := accounts.exists_source isEntry
    refine ⟨entry, isEntry, ?_⟩
    rw [← columns, ← faithful first isFirst record member, sameKey, key]
  source entry member := by
    obtain ⟨first, isFirst, columns, -⟩ := accounts.exists_source member
    exact ⟨first, isFirst, columns⟩
  count entry member := by
    obtain ⟨first, isFirst, columns, key⟩ := accounts.exists_source member
    rw [(accounts.describes entry member).count]
    refine List.countP_congr fun record isRecord => ?_
    rw [beq_iff_eq, decide_eq_true_iff, ← key, ← columns]
    exact faithful record isRecord first isFirst

end

/-- Records are counted together if their columns have the same pieces between NULs. Where no column
has a NUL in it, they are counted together if their columns are the same. -/
theorem addAll_countsBy (records : List Record) :
    let tally := ({} : Tally).addAll records
    ((∀ a b : Record, a.key = b.key ↔ pieces a.columns = pieces b.columns) ∧
      CountsBy pieces tally records) ∧
    ((∀ record ∈ records, IsFree record.columns) →
      (∀ a ∈ records, ∀ b ∈ records, a.key = b.key ↔ a.columns = b.columns) ∧
        CountsBy id tally records) := by
  intro tally
  have accounts : tally.Accounts records := accounts_empty.addAll records
  refine ⟨⟨fun _ _ => key_eq_iff, accounts.countsBy fun _ _ _ _ => key_eq_iff⟩, fun free => ?_⟩
  have faithful (a : Record) (memberA : a ∈ records) (b : Record) (memberB : b ∈ records) :
      a.key = b.key ↔ a.columns = b.columns := (free a memberA).key_eq_iff (free b memberB)
  exact ⟨faithful, accounts.countsBy faithful⟩

theorem addAll_blankWithin :
    let first : Record := { line := "'a b' c", columns := ["a b", "c"] }
    let second : Record := { line := "a 'b c'", columns := ["a", "b c"] }
    let records := [first, second, first]
    (∀ record ∈ records, IsFree record.columns) ∧
      CountsBy id (({} : Tally).addAll records) records ∧ first.key ≠ second.key := by
  intro first second records
  have free : ∀ record ∈ records, IsFree record.columns := by
    simp only [records, List.forall_mem_cons, IsFree]
    decide
  obtain ⟨identity, counts⟩ := (addAll_countsBy records).2 free
  refine ⟨free, counts, fun same => ?_⟩
  have together := (identity first List.mem_cons_self second
    (List.mem_cons_of_mem _ List.mem_cons_self)).1 same
  exact absurd together (by decide)

/-- A column with a NUL in it is counted together with the two columns that the NUL cuts it into. -/
theorem addAll_nulWithin :
    let joined : Record := { line := "a\x00b", columns := ["a\x00b"] }
    let apart : Record := { line := "a b", columns := ["a", "b"] }
    joined.columns ≠ apart.columns ∧ joined.key = apart.key ∧
      (({} : Tally).addAll [joined, apart]).entries.toList = [⟨["a\x00b"], 2⟩] := by
  intro joined apart
  have same : joined.key = apart.key := key_eq_iff.2 (by decide)
  have columns : joined.columns = ["a\x00b"] := rfl
  refine ⟨by decide, same, ?_⟩
  simp [addAll, add, same, columns]

end LogQuery.Tally

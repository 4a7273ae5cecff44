import Mathlib.Data.List.Basic
import LogQuery.Tally

/-! What the table of contents says of the records that were put into it.

The index leads from a key to the one entry that was made for it. So a further record with that key
is credited to that entry, and to no other.
-/

set_option autoImplicit false

namespace LogQuery.Tally

def Entry.key (entry : Entry) : String := Record.key { line := "", columns := entry.columns }

def keys (tally : Tally) : List String := tally.entries.toList.map Entry.key

def counted (entries : List Entry) : Nat := entries.foldr (fun entry rest => entry.count + rest) 0

/-- How many records came before the first one with the key. -/
def rank (records : List Record) (key : String) : Nat := (records.map Record.key).idxOf key

/-- The entry has the columns of the first record with its key, and counts all records with it. -/
structure Entry.Describes (entry : Entry) (records : List Record) : Prop where
  columns : (records.find? (·.key == entry.key)).map (·.columns) = some entry.columns
  count : entry.count = records.countP (·.key == entry.key)

structure Accounts (tally : Tally) (records : List Record) : Prop where
  index : ∀ (key : String) (place : Nat),
    tally.index[key]? = some place ↔ tally.keys[place]? = some key
  keys : ∀ key, key ∈ tally.keys ↔ key ∈ records.map Record.key
  order : tally.keys.Pairwise fun a b => rank records a < rank records b
  describes : ∀ entry ∈ tally.entries.toList, entry.Describes records
  sum : counted tally.entries.toList = tally.total
  total : tally.total = records.length

theorem counted_cons (entry : Entry) (entries : List Entry) :
    counted (entry :: entries) = entry.count + counted entries := rfl

theorem counted_append (front back : List Entry) :
    counted (front ++ back) = counted front + counted back := by
  induction front with
  | nil => exact (Nat.zero_add _).symm
  | cons entry front ih =>
    rw [List.cons_append, counted_cons, counted_cons, ih, Nat.add_assoc]

/-! ## One entry and one more record -/

section

variable {records : List Record} {record : Record} {entry : Entry}

theorem countP_concat (key : String) :
    (records ++ [record]).countP (·.key == key) =
      records.countP (·.key == key) + if record.key = key then 1 else 0 := by
  rw [List.countP_append, List.countP_singleton]
  simp only [beq_iff_eq]

theorem Entry.Describes.columns_concat (describes : entry.Describes records) :
    ((records ++ [record]).find? (·.key == entry.key)).map (·.columns) = some entry.columns := by
  obtain ⟨first, found, columns⟩ := Option.map_eq_some_iff.1 describes.columns
  rw [List.find?_append, found, ← columns]
  rfl

theorem Entry.Describes.other (describes : entry.Describes records)
    (other : record.key ≠ entry.key) : entry.Describes (records ++ [record]) := by
  refine ⟨describes.columns_concat, ?_⟩
  rw [countP_concat, if_neg other]
  exact describes.count

theorem Entry.Describes.again (describes : entry.Describes records)
    (same : record.key = entry.key) :
    Describes { entry with count := entry.count + 1 } (records ++ [record]) := by
  refine ⟨describes.columns_concat, ?_⟩
  change entry.count + 1 = (records ++ [record]).countP (·.key == entry.key)
  rw [countP_concat, if_pos same, describes.count]

theorem describes_new (new : record.key ∉ records.map Record.key) :
    Entry.Describes ⟨record.columns, 1⟩ (records ++ [record]) := by
  have none_before (other : Record) (member : other ∈ records) : ¬ (other.key == record.key) = true :=
    mt beq_iff_eq.1 fun same => new (same ▸ List.mem_map_of_mem member)
  constructor
  · change ((records ++ [record]).find? (·.key == record.key)).map (·.columns) = some record.columns
    rw [List.find?_append, List.find?_eq_none.2 none_before, Option.none_or, List.find?_singleton,
      if_pos (beq_self_eq_true _)]
    rfl
  · change 1 = (records ++ [record]).countP (·.key == record.key)
    rw [countP_concat, if_pos rfl, List.countP_eq_zero.2 none_before]

theorem getElem?_concat_eq_some_iff {keys : List String} {last key : String} {place : Nat} :
    (keys ++ [last])[place]? = some key ↔
      keys[place]? = some key ∨ (place = keys.length ∧ key = last) := by
  rcases Nat.lt_trichotomy place keys.length with inside | rfl | outside
  · simp [List.getElem?_append_left inside, Nat.ne_of_lt inside]
  · simp [eq_comm]
  · have behind : (keys ++ [last]).length ≤ place := by
      rw [List.length_append]
      exact outside
    simp [List.getElem?_eq_none behind, List.getElem?_eq_none (Nat.le_of_lt outside),
      Nat.ne_of_gt outside]

theorem rank_lt {key : String} (seen : key ∈ records.map Record.key) :
    rank records key < records.length := by
  rw [rank, ← List.length_map Record.key]
  exact List.idxOf_lt_length_iff.2 seen

theorem rank_append {key : String} (seen : key ∈ records.map Record.key) (more : List Record) :
    rank (records ++ more) key = rank records key := by
  rw [rank, List.map_append, List.idxOf_append_of_mem seen, rank]

theorem rank_new (new : record.key ∉ records.map Record.key) :
    rank (records ++ [record]) record.key = records.length := by
  rw [rank, List.map_append, List.idxOf_append_of_notMem new, List.length_map, List.map_singleton,
    List.idxOf_cons_self, Nat.add_zero]

end

/-! ## The table and one more record -/

section

variable {tally : Tally} {records : List Record} {record : Record}

theorem accounts_empty : Accounts {} [] where
  index key place := by simp [Tally.keys]
  keys key := Iff.rfl
  order := .nil
  describes := by rintro _ ⟨⟩
  sum := rfl
  total := rfl

theorem add_known {place : Nat} (known : tally.index[record.key]? = some place) :
    tally.add record = { tally with
      entries := tally.entries.modify place fun entry => { entry with count := entry.count + 1 }
      total := tally.total + 1 } := by
  rw [add]
  simp only [known]

theorem add_new (new : tally.index[record.key]? = none) :
    tally.add record = {
      index := tally.index.insert record.key tally.entries.size
      entries := tally.entries.push ⟨record.columns, 1⟩
      total := tally.total + 1 } := by
  rw [add]
  simp only [new]

theorem Accounts.entries_order (accounts : Accounts tally records) :
    tally.entries.toList.Pairwise fun a b => rank records a.key < rank records b.key := by
  have order := accounts.order
  rw [Tally.keys, List.pairwise_map] at order
  exact order

/-- A key that was seen before belongs to one entry, and the record is counted there. -/
theorem Accounts.exists_known (accounts : Accounts tally records) {place : Nat}
    (known : tally.index[record.key]? = some place) :
    ∃ front entry back, tally.entries.toList = front ++ entry :: back ∧
      (tally.add record).entries.toList =
        front ++ { entry with count := entry.count + 1 } :: back ∧
      entry.key = record.key ∧ ∀ other ∈ front ++ back, record.key ≠ other.key := by
  have there := (accounts.index record.key place).1 known
  rw [Tally.keys, List.getElem?_map, Option.map_eq_some_iff] at there
  obtain ⟨entry, at_place, key⟩ := there
  obtain ⟨inside, rfl⟩ := List.getElem?_eq_some_iff.1 at_place
  have cut : tally.entries.toList = tally.entries.toList.take place ++
      tally.entries.toList[place] :: tally.entries.toList.drop (place + 1) := by
    rw [List.getElem_cons_drop, List.take_append_drop]
  refine ⟨_, _, _, cut, ?_, key, ?_⟩
  · rw [add_known known, Array.toList_modify, List.modify_eq_take_cons_drop inside]
  · -- the keys stand in order, so none stands twice
    have order := accounts.order
    rw [Tally.keys, cut, List.map_append, List.map_cons, List.pairwise_append,
      List.pairwise_cons] at order
    intro other member same
    rw [List.mem_append] at member
    rw [key, same] at order
    obtain member | member := member
    · exact Nat.lt_irrefl _ (order.2.2 _ (List.mem_map_of_mem member) _ List.mem_cons_self)
    · exact Nat.lt_irrefl _ (order.2.1.1 _ (List.mem_map_of_mem member))

theorem Accounts.order_append (accounts : Accounts tally records) (more : List Record) :
    tally.keys.Pairwise fun a b => rank (records ++ more) a < rank (records ++ more) b := by
  refine accounts.order.imp_of_mem fun {a b} before behind less => ?_
  rw [rank_append ((accounts.keys a).1 before), rank_append ((accounts.keys b).1 behind)]
  exact less

theorem Accounts.add_again (accounts : Accounts tally records) {place : Nat}
    (known : tally.index[record.key]? = some place) :
    Accounts (tally.add record) (records ++ [record]) := by
  obtain ⟨front, entry, back, before, after, key, others⟩ := accounts.exists_known known
  have keys : (tally.add record).keys = tally.keys := by
    rw [Tally.keys, Tally.keys, before, after, List.map_append, List.map_append]
    rfl
  constructor
  case index =>
    rw [keys, add_known known]
    exact accounts.index
  case keys =>
    -- the record brings no new key
    have seen : record.key ∈ records.map Record.key :=
      (accounts.keys _).1 (List.mem_of_getElem? ((accounts.index _ _).1 known))
    intro key
    rw [keys, accounts.keys, List.map_append, List.mem_append, List.map_singleton,
      List.mem_singleton]
    exact ⟨.inl, fun either => either.elim id fun same => same ▸ seen⟩
  case order =>
    rw [keys]
    exact accounts.order_append [record]
  case describes =>
    have describes := accounts.describes
    rw [before, List.forall_mem_append, List.forall_mem_cons] at describes
    rw [List.forall_mem_append] at others
    rw [after, List.forall_mem_append, List.forall_mem_cons]
    exact ⟨fun other member => (describes.1 other member).other (others.1 other member),
      describes.2.1.again key.symm,
      fun other member => (describes.2.2 other member).other (others.2 other member)⟩
  case sum =>
    have sum := accounts.sum
    rw [before, counted_append, counted_cons] at sum
    rw [after, counted_append, counted_cons, add_known known]
    dsimp only
    omega
  case total =>
    rw [add_known known, List.length_append, ← accounts.total]
    rfl

theorem Accounts.add_first (accounts : Accounts tally records)
    (new : tally.index[record.key]? = none) :
    Accounts (tally.add record) (records ++ [record]) := by
  have after : (tally.add record).entries.toList =
      tally.entries.toList ++ [⟨record.columns, 1⟩] := by
    rw [add_new new, Array.toList_push]
  have keys : (tally.add record).keys = tally.keys ++ [record.key] := by
    rw [Tally.keys, after, List.map_append]
    rfl
  have unknown : record.key ∉ tally.keys := by
    intro member
    obtain ⟨place, there⟩ := List.getElem?_of_mem member
    rw [(accounts.index _ _).2 there] at new
    cases new
  have unseen : record.key ∉ records.map Record.key := mt (accounts.keys _).2 unknown
  constructor
  case index =>
    -- the new place is the one behind all others
    have size : tally.entries.size = tally.keys.length := by
      rw [Tally.keys, List.length_map, Array.length_toList]
    intro key place
    rw [keys, add_new new, Std.HashMap.getElem?_insert, getElem?_concat_eq_some_iff,
      ← accounts.index]
    by_cases same : record.key = key
    · subst same
      rw [if_pos (beq_self_eq_true _), new, size]
      simp [eq_comm]
    · rw [if_neg (mt beq_iff_eq.1 same)]
      simp [Ne.symm same]
  case keys =>
    intro key
    rw [keys, List.map_append, List.mem_append, List.mem_append, accounts.keys]
    rfl
  case order =>
    rw [keys, List.pairwise_append]
    refine ⟨accounts.order_append [record], List.pairwise_singleton _ _, ?_⟩
    intro key member last isLast
    cases List.mem_singleton.1 isLast
    have seen := (accounts.keys key).1 member
    rw [rank_append seen, rank_new unseen]
    exact rank_lt seen
  case describes =>
    rw [after, List.forall_mem_append, List.forall_mem_singleton]
    refine ⟨fun entry member => ?_, describes_new unseen⟩
    exact (accounts.describes entry member).other fun same =>
      unknown (same ▸ List.mem_map_of_mem member)
  case sum =>
    rw [after, counted_append, accounts.sum, add_new new]
    rfl
  case total =>
    rw [add_new new, List.length_append, ← accounts.total]
    rfl

theorem Accounts.add (accounts : Accounts tally records) (record : Record) :
    Accounts (tally.add record) (records ++ [record]) := by
  cases found : tally.index[record.key]? with
  | some place => exact accounts.add_again found
  | none => exact accounts.add_first found

theorem Accounts.addAll (accounts : Accounts tally records) (more : List Record) :
    Accounts (tally.addAll more) (records ++ more) := by
  induction more generalizing tally records with
  | nil =>
    rw [List.append_nil]
    exact accounts
  | cons record more ih =>
    rw [List.append_cons]
    exact ih (accounts.add record)

end

end LogQuery.Tally

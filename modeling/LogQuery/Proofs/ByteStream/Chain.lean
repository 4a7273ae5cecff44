import LogQuery.ByteStream.Basic

/-! Streams that are read one behind the other bring what each of them would bring, in their order.

A stream of the chain is left behind only when it has brought everything. A failure does not end it:
the next read goes on behind the failure, in the same stream.
-/

set_option autoImplicit false

namespace LogQuery.ByteStream

/-- What a stream brings: its bytes, and its failures between them. -/
def items : ByteStream → List (Except Failure UInt8)
  | [] => []
  | .bytes data :: rest => data.map .ok ++ items rest
  | .failure cause :: rest => .error cause :: items rest

def brought : Except Failure (List UInt8) → List (Except Failure UInt8)
  | .ok data => data.map .ok
  | .error cause => [.error cause]

def Exhausted (streams : List ByteStream) : Prop := ∀ stream ∈ streams, items stream = []

/-- The answers to reads of the given sizes from a chain of streams, and the streams after them. -/
def readsChain : (sizes : List Nat) → List ByteStream →
    List (Except Failure (List UInt8)) × List ByteStream
  | [], streams => ([], streams)
  | n :: sizes, streams =>
    let (answer, left) := readChain n streams
    let (answers, last) := readsChain sizes left
    (answer :: answers, last)

/-! ## One read from a stream -/

theorem items_read (n : Nat) (stream : ByteStream) :
    brought (stream.read n).1 ++ items (stream.read n).2 = items stream := by
  induction stream with
  | nil => rfl
  | cons event rest ih =>
    match event with
    | .bytes [] => exact ih
    | .bytes (byte :: data) =>
      rw [read, brought, items, items, ← List.append_assoc, ← List.map_append,
        List.take_append_drop]
    | .failure cause => rfl

/-- Where a read that asks for bytes brings none, there is nothing more. -/
theorem items_of_read_nil {n : Nat} (asks : 0 < n) {stream : ByteStream}
    (nothing : (stream.read n).1 = .ok []) : items stream = [] := by
  induction stream with
  | nil => rfl
  | cons event rest ih =>
    match event with
    | .bytes [] => exact ih nothing
    | .bytes (byte :: data) =>
      obtain ⟨size, rfl⟩ := Nat.exists_eq_succ_of_ne_zero (Nat.ne_of_gt asks)
      cases nothing
    | .failure cause => cases nothing

theorem read_of_items_nil (n : Nat) {stream : ByteStream} (nothing : items stream = []) :
    (stream.read n).1 = .ok [] := by
  induction stream with
  | nil => rfl
  | cons event rest ih =>
    match event with
    | .bytes [] => exact ih nothing
    | .bytes (byte :: data) => cases nothing
    | .failure cause => cases nothing

theorem length_read {n : Nat} {stream : ByteStream} {data : List UInt8}
    (read : (stream.read n).1 = .ok data) : data.length ≤ n := by
  induction stream with
  | nil =>
    cases read
    exact Nat.zero_le n
  | cons event rest ih =>
    match event with
    | .bytes [] => exact ih read
    | .bytes (byte :: bytes) =>
      cases read
      exact List.length_take_le _ _
    | .failure cause => cases read

/-! ## One read from a chain -/

theorem readChain_zero (streams : List ByteStream) : readChain 0 streams = (.ok [], streams) := by
  cases streams <;> rfl

theorem readChain_skip {n : Nat} (asks : 0 < n) {stream : ByteStream}
    (nothing : (stream.read n).1 = .ok []) (later : List ByteStream) :
    readChain n (stream :: later) = readChain n later := by
  rw [readChain, if_neg (mt beq_iff_eq.1 (Nat.ne_of_gt asks))]
  split
  · rfl
  · next rest other same =>
    rw [same] at nothing
    exact absurd nothing other

theorem readChain_take {n : Nat} (asks : 0 < n) {stream : ByteStream}
    (something : (stream.read n).1 ≠ .ok []) (later : List ByteStream) :
    readChain n (stream :: later) = ((stream.read n).1, (stream.read n).2 :: later) := by
  rw [readChain, if_neg (mt beq_iff_eq.1 (Nat.ne_of_gt asks))]
  split
  · next same =>
    rw [same] at something
    exact absurd rfl something
  · next same => rw [same]

theorem exhausted_iff {streams : List ByteStream} :
    Exhausted streams ↔ streams.flatMap items = [] := List.flatMap_eq_nil_iff.symm

/-- The read is made from the first stream that has something left, and that one stays in front. -/
theorem readChain_cases {n : Nat} (asks : 0 < n) (streams : List ByteStream) :
    (Exhausted streams ∧ readChain n streams = (.ok [], [])) ∨
      ∃ passed stream later, streams = passed ++ stream :: later ∧ Exhausted passed ∧
        items stream ≠ [] ∧
        readChain n streams = ((stream.read n).1, (stream.read n).2 :: later) := by
  induction streams with
  | nil => exact .inl ⟨by rintro _ ⟨⟩, rfl⟩
  | cons stream streams ih =>
    by_cases nothing : items stream = []
    · rw [readChain_skip asks (read_of_items_nil n nothing)]
      obtain ⟨exhausted, answer⟩ | ⟨passed, next, later, rfl, spent, some_left, answer⟩ := ih
      · exact .inl ⟨List.forall_mem_cons.2 ⟨nothing, exhausted⟩, answer⟩
      · exact .inr ⟨stream :: passed, next, later, rfl, List.forall_mem_cons.2 ⟨nothing, spent⟩,
          some_left, answer⟩
    · have something := mt (items_of_read_nil asks) nothing
      exact .inr ⟨[], stream, streams, rfl, by rintro _ ⟨⟩, nothing,
        readChain_take asks something streams⟩

example : readChain 2 [[.bytes []], [.failure .interruption, .bytes [1]], [.bytes [2]]] =
    (.error .interruption, [[.bytes [1]], [.bytes [2]]]) := rfl

theorem items_readChain (n : Nat) (streams : List ByteStream) :
    brought (readChain n streams).1 ++ (readChain n streams).2.flatMap items =
      streams.flatMap items := by
  obtain rfl | asks := Nat.eq_zero_or_pos n
  · rw [readChain_zero]
    rfl
  obtain ⟨exhausted, answer⟩ | ⟨passed, stream, later, rfl, spent, -, answer⟩ :=
    readChain_cases asks streams
  · rw [answer, exhausted_iff.1 exhausted]
    rfl
  · rw [answer, List.flatMap_append, exhausted_iff.1 spent, List.flatMap_cons, List.flatMap_cons,
      ← List.append_assoc, items_read, List.nil_append]

theorem readChain_eq_nil_iff {n : Nat} (asks : 0 < n) {streams : List ByteStream} :
    (readChain n streams).1 = .ok [] ↔ Exhausted streams := by
  obtain ⟨exhausted, answer⟩ | ⟨passed, stream, later, rfl, -, some_left, answer⟩ :=
    readChain_cases asks streams
  · rw [answer]
    exact iff_of_true rfl exhausted
  · rw [answer]
    exact iff_of_false (mt (items_of_read_nil asks) some_left) fun exhausted =>
      some_left (exhausted stream List.mem_append_cons_self)

theorem Exhausted.readChain {streams : List ByteStream} (exhausted : Exhausted streams) (n : Nat) :
    (readChain n streams).1 = .ok [] ∧ Exhausted (readChain n streams).2 := by
  constructor
  · obtain rfl | asks := Nat.eq_zero_or_pos n
    · rw [readChain_zero]
    · exact (readChain_eq_nil_iff asks).2 exhausted
  · have account := items_readChain n streams
    rw [exhausted_iff.1 exhausted, List.append_eq_nil_iff] at account
    exact exhausted_iff.2 account.2

theorem length_readChain {n : Nat} {streams : List ByteStream} {data : List UInt8}
    (answer : (readChain n streams).1 = .ok data) : data.length ≤ n := by
  obtain rfl | asks := Nat.eq_zero_or_pos n
  · rw [readChain_zero] at answer
    cases answer
    exact Nat.le_refl 0
  obtain ⟨-, same⟩ | ⟨passed, stream, later, rfl, -, -, same⟩ := readChain_cases asks streams
  · rw [same] at answer
    cases answer
    exact Nat.zero_le n
  · rw [same] at answer
    exact length_read answer

theorem length_items_readChain {n : Nat} (asks : 0 < n) {streams : List ByteStream}
    (some_left : ¬ Exhausted streams) :
    ((readChain n streams).2.flatMap items).length < (streams.flatMap items).length := by
  have brings : brought (readChain n streams).1 ≠ [] := by
    have answer := mt (readChain_eq_nil_iff asks).1 some_left
    cases told : (readChain n streams).1 with
    | error cause => exact List.cons_ne_nil _ _
    | ok data =>
      rw [told] at answer
      exact fun none_brought => answer (congrArg _ (List.map_eq_nil_iff.1 none_brought))
  rw [← items_readChain n streams, List.length_append]
  exact Nat.lt_add_of_pos_left (List.length_pos_iff.2 brings)

/-! ## Reads from a chain -/

theorem readsChain_cons (n : Nat) (sizes : List Nat) (streams : List ByteStream) :
    readsChain (n :: sizes) streams =
      ((readChain n streams).1 :: (readsChain sizes (readChain n streams).2).1,
        (readsChain sizes (readChain n streams).2).2) := rfl

theorem items_readsChain (sizes : List Nat) (streams : List ByteStream) :
    (readsChain sizes streams).1.flatMap brought ++ (readsChain sizes streams).2.flatMap items =
      streams.flatMap items := by
  induction sizes generalizing streams with
  | nil => rfl
  | cons n sizes ih =>
    rw [readsChain_cons, List.flatMap_cons, List.append_assoc, ih, items_readChain]

theorem Exhausted.readsChain {streams : List ByteStream} (exhausted : Exhausted streams)
    (sizes : List Nat) :
    (∀ answer ∈ (readsChain sizes streams).1, answer = .ok []) ∧
      Exhausted (readsChain sizes streams).2 := by
  induction sizes generalizing streams with
  | nil => exact ⟨by rintro _ ⟨⟩, exhausted⟩
  | cons n sizes ih =>
    obtain ⟨nothing, stays⟩ := exhausted.readChain n
    rw [readsChain_cons, List.forall_mem_cons]
    exact ⟨⟨nothing, (ih stays).1⟩, (ih stays).2⟩

theorem exhausted_readsChain {sizes : List Nat} {streams : List ByteStream}
    (enough : (streams.flatMap items).length ≤ sizes.countP (0 < ·)) :
    Exhausted (readsChain sizes streams).2 := by
  induction sizes generalizing streams with
  | nil => exact exhausted_iff.2 (List.eq_nil_of_length_eq_zero (Nat.le_zero.1 enough))
  | cons n sizes ih =>
    rw [readsChain_cons]
    by_cases exhausted : Exhausted streams
    · exact ((exhausted.readChain n).2.readsChain sizes).2
    apply ih
    rw [List.countP_cons] at enough
    obtain rfl | asks := Nat.eq_zero_or_pos n
    · rw [readChain_zero]
      exact enough
    · -- this read brings one of the items at least
      have fewer := length_items_readChain asks exhausted
      rw [if_pos (decide_eq_true asks)] at enough
      omega

/-- Reads from a chain bring what its streams have, in their order: what was brought and what is
left are all of it, and after enough reads nothing is left. A read that asks for bytes and brings
none tells that nothing is left, and no later read brings any. Otherwise it is made from the first
stream that has something left, and the next one goes on there, be it that the read failed. A read
that asks for nothing leaves the streams as they are. -/
theorem readsChain_concatenates (sizes : List Nat) (streams : List ByteStream) :
    let answers := (readsChain sizes streams).1
    let left := (readsChain sizes streams).2
    (answers.flatMap brought ++ left.flatMap items = streams.flatMap items ∧
      ((streams.flatMap items).length ≤ sizes.countP (0 < ·) → Exhausted left)) ∧
    (∀ n, 0 < n → ((readChain n left).1 = .ok [] ↔ Exhausted left)) ∧
    (Exhausted left → ∀ more, ∀ answer ∈ (readsChain more left).1, answer = .ok []) ∧
    (∀ n, 0 < n → ¬ Exhausted left →
      ∃ passed stream later, left = passed ++ stream :: later ∧ Exhausted passed ∧
        items stream ≠ [] ∧
        readChain n left = ((stream.read n).1, (stream.read n).2 :: later)) ∧
    (∀ n data, (readChain n left).1 = .ok data → data.length ≤ n) ∧
    readChain 0 left = (.ok [], left) := by
  intro answers left
  refine ⟨⟨items_readsChain sizes streams, exhausted_readsChain⟩,
    fun n asks => readChain_eq_nil_iff asks, fun exhausted more => (exhausted.readsChain more).1,
    fun n asks some_left => ?_, fun n data => length_readChain, readChain_zero left⟩
  obtain ⟨exhausted, -⟩ | found := readChain_cases asks left
  · exact absurd exhausted some_left
  · exact found

end LogQuery.ByteStream

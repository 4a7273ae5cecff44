import LogQuery.Proofs.SeekingReader.Seeking

/-! Where a reader stands in its input.

All bytes of the input are accounted for at any time: those that were skipped, those that were
given out, and, in the buffer, those that are cleared and those that are not; the rest is still to
be read. The reader goes from one such standing to the next by clearing lines, reading blocks and
giving out bytes.
-/

set_option autoImplicit false

namespace LogQuery.SeekingReader

open ByteStream

structure IsFresh (reader : SeekingReader) : Prop where
  hasStarted : reader.hasStarted = false
  buffer : reader.buffer = #[]
  served : reader.served = 0
  cleared : reader.cleared = 0
  lateFound : reader.lateFound = false
  atEnd : reader.isAtEnd = false
  bytesRead : reader.bytesRead = 0
  bytesSkipped : reader.bytesSkipped = 0

def IsOrdered (reader : SeekingReader) : Prop :=
  IgnoresNewline reader.dateOf ∧ (dates reader.dateOf reader.unread).Pairwise (· ≤ ·)

/-- The bytes of the input, `source` having been the reader before its first read, with `given`
given out since. -/
structure Accounts (source : SeekingReader) (given : List UInt8) (reader : SeekingReader) :
    Prop where
  window : reader.window = source.window
  dateOf : reader.dateOf = source.dateOf
  blockSize : reader.blockSize = source.blockSize
  served_le : reader.served ≤ reader.cleared
  cleared_le : reader.cleared ≤ reader.buffer.size
  skipped_le : reader.bytesSkipped ≤ source.unread.length
  split : source.unread = source.unread.take reader.bytesSkipped ++
    (given ++ reader.due) ++ (reader.held ++ reader.unread)
  bytesRead : reader.bytesRead + reader.unread.length = source.unread.length
  ending : reader.ending = source.ending ∨ reader.ending = none
  skipped_whole : IsWhole (source.unread.take reader.bytesSkipped) ∨
    (given ++ reader.due = [] ∧ reader.bytesSkipped = source.unread.length)
  cleared_whole : IsWhole (given ++ reader.due) ∨
    (reader.isAtEnd = true ∧ reader.held = [] ∧ reader.lateFound = false)
  early : IsOrdered source →
    ∀ d ∈ dates source.dateOf (source.unread.take reader.bytesSkipped), d < source.window.start
  timely : IsOrdered source →
    ∀ d ∈ dates source.dateOf (given ++ reader.due), d ≤ source.window.finish
  kept : (∃ d ∈ dates source.dateOf source.unread, source.window.start ≤ d) ∨
    reader.bytesSkipped = source.unread.length

/-- The bytes are accounted for, and the complete lines in the buffer are cleared up to the first
late one. -/
structure Standing (source : SeekingReader) (given : List UInt8) (reader : SeekingReader) : Prop
    extends Accounts source given reader where
  rest : reader.lateFound = false →
    if reader.isAtEnd then reader.held = [] else newline ∉ reader.held
  late : reader.lateFound = true → ∃ line lines, segments reader.held = line :: lines ∧
    isLate source.dateOf source.window.finish line = true ∧
    (line.getLast? = some newline ∨ (reader.isAtEnd = true ∧ lines = [])) ∧
    reader.bytesRead < reader.bytesSkipped + (given ++ reader.due).length + line.length +
      reader.blockSize

theorem isFresh_ofStream (stream : ByteStream) (window : Time.Window)
    (dateOf : List UInt8 → Option Time.DateTime) (blockSize : Nat) :
    IsFresh (ofStream stream window dateOf blockSize) := by
  constructor <;> rfl

section Clearing

variable {source before after : SeekingReader} {given : List UInt8}

theorem Clears.due_eq (clears : Clears before after) (order : before.served ≤ before.cleared) :
    after.due = before.due ++ region before.buffer before.cleared after.cleared := by
  rw [clears.same]
  exact (region_append before.buffer order clears.forwards).symm

theorem Clears.held_eq (clears : Clears before after) :
    before.held = region before.buffer before.cleared after.cleared ++ after.held := by
  rw [clears.same]
  exact (region_append before.buffer clears.forwards clears.bound).symm

theorem lt_line_end {buffer : Array UInt8} {start place scanned stop : Nat} {line : List UInt8}
    {lines : List (List UInt8)} (order : start ≤ place) (upper : place ≤ stop)
    (bound : stop ≤ buffer.size) (searched : newline ∉ region buffer start scanned)
    (first : segments (region buffer place stop) = line :: lines)
    (ended : line.getLast? = some newline) : scanned < place + line.length := by
  have bytes : region buffer place stop = line ++ lines.flatten := by
    rw [← flatten_segments (region buffer place stop), first, List.flatten_cons]
  have lengths := congrArg List.length bytes
  rw [length_region place bound, List.length_append] at lengths
  -- else the newline of the line would have been found by the search
  by_contra beyond
  have inside : place + line.length ≤ stop := by omega
  have cut := region_append buffer (Nat.le_add_right place line.length) inside
  have same : region buffer place (place + line.length) = line := by
    rw [bytes] at cut
    refine (List.append_inj cut ?_).1
    rw [length_region place (by omega)]
    omega
  apply searched
  have upTo : place ≤ scanned := by omega
  have within : place + line.length ≤ scanned := by omega
  rw [← region_append buffer order upTo,
    ← region_append buffer (Nat.le_add_right place line.length) within, same]
  simp [List.mem_of_getLast? ended]

variable {reader : SeekingReader}

theorem length_held (order : reader.cleared ≤ reader.buffer.size) :
    reader.held.length + reader.cleared = reader.buffer.size := by
  rw [held, length_region reader.cleared (Nat.le_refl _)]
  omega

theorem length_due (bound : reader.cleared ≤ reader.buffer.size)
    (order : reader.served ≤ reader.cleared) :
    reader.due.length + reader.served = reader.cleared := by
  rw [due, length_region reader.served bound]
  omega

theorem Accounts.bytesRead_eq (accounts : Accounts source given reader) :
    reader.bytesRead =
      reader.bytesSkipped + (given ++ reader.due).length + reader.held.length := by
  have lengths := congrArg List.length accounts.split
  have := accounts.bytesRead
  have := accounts.skipped_le
  simp only [List.length_append, List.length_take] at lengths ⊢
  omega

theorem Accounts.nothing_left (accounts : Accounts source given reader)
    (all : reader.bytesSkipped = source.unread.length) :
    given ++ reader.due = [] ∧ reader.held ++ reader.unread = [] := by
  have lengths := congrArg List.length accounts.split
  simp only [List.length_append, List.length_take, all] at lengths
  constructor <;> apply List.eq_nil_of_length_eq_zero <;> rw [List.length_append] <;> omega

theorem Accounts.ordered_rest (accounts : Accounts source given reader) (ordered : IsOrdered source)
    (cleared_whole : IsWhole (given ++ reader.due)) :
    (dates source.dateOf (reader.held ++ reader.unread)).Pairwise (· ≤ ·) := by
  rcases accounts.skipped_whole with whole | ⟨_, all⟩
  · have inOrder := ordered.2
    rw [accounts.split, dates_append _ (whole.append cleared_whole)] at inOrder
    exact (List.pairwise_append.1 inOrder).2.1
  · simp [(accounts.nothing_left all).2]

theorem Accounts.bytesRead_lt (accounts : Accounts source given reader) {start scanned : Nat}
    (order : start ≤ reader.cleared) (searched : newline ∉ region reader.buffer start scanned)
    (recent : reader.buffer.size ≤ scanned + reader.blockSize) {line : List UInt8}
    {lines : List (List UInt8)} (first : segments reader.held = line :: lines)
    (ended : line.getLast? = some newline ∨ (reader.isAtEnd = true ∧ lines = [])) :
    reader.bytesRead < reader.bytesSkipped + (given ++ reader.due).length + line.length +
      reader.blockSize := by
  have total := accounts.bytesRead_eq
  have heldLength := length_held accounts.cleared_le
  rcases ended with ended | ⟨_, rfl⟩
  · -- its newline is in the last block, which is all that is read behind it
    have beyond : scanned < reader.cleared + line.length :=
      lt_line_end order accounts.cleared_le (Nat.le_refl _) searched first ended
    omega
  · have same := flatten_segments reader.held
    rw [first, List.flatten_cons, List.flatten_nil, List.append_nil] at same
    have := reader.blockSize_pos
    rw [← same] at total
    omega

/-- Clearing lines keeps the bytes accounted for, and leaves no complete line before the first late
one that is not cleared. -/
theorem Accounts.clear (accounts : Accounts source given before) (clears : Clears before after)
    {scanned : Nat} (searched : newline ∉ region before.buffer before.cleared scanned)
    (recent : before.buffer.size ≤ scanned + before.blockSize) : Standing source given after := by
  have dueEq := clears.due_eq accounts.served_le
  have heldEq := clears.held_eq
  obtain ⟨place, late, rfl⟩ : ∃ place late,
    after = { before with cleared := place, lateFound := late } := ⟨_, _, clears.same⟩
  have unmoved (none_held : before.held = []) :
      region before.buffer before.cleared place = [] :=
    (List.append_eq_nil_iff.1 (heldEq.symm.trans none_held)).1
  have accounts' : Accounts source given { before with cleared := place, lateFound := late } := {
    accounts with
    served_le := Nat.le_trans accounts.served_le clears.forwards
    cleared_le := clears.bound
    split := by
      refine accounts.split.trans ?_
      rw [dueEq, heldEq]
      simp only [List.append_assoc]
      rfl
    skipped_whole := by
      refine accounts.skipped_whole.imp_right fun ⟨none_due, all⟩ => ⟨?_, all⟩
      have left := List.append_eq_nil_iff.1 (accounts.nothing_left all).2
      rw [dueEq, unmoved left.1, List.append_nil, none_due]
    cleared_whole := by
      rcases accounts.cleared_whole with whole | ⟨atEnd, none_held, _⟩
      · rcases clears.whole with moved | ⟨atEnd, all, found⟩
        · left
          rw [dueEq, ← List.append_assoc]
          exact whole.append moved
        · change place = before.buffer.size at all
          exact .inr ⟨atEnd, by simp [held, all], found⟩
      · have none_held := (List.append_eq_nil_iff.1 (heldEq.symm.trans none_held)).2
        refine .inr ⟨atEnd, none_held, Bool.eq_false_iff.2 fun found => ?_⟩
        obtain ⟨line, lines, first, _⟩ := clears.late found
        simp [none_held, segments] at first
    timely := fun ordered => by
      rw [dueEq, ← List.append_assoc]
      rcases accounts.cleared_whole with whole | ⟨_, none_held, _⟩
      · -- the lines that were cleared before, and those that are cleared now
        rw [dates_append _ whole]
        intro d member
        rcases List.mem_append.1 member with first | second
        · exact accounts.timely ordered d first
        · have := clears.timely (accounts.dateOf ▸ ordered.1)
            (accounts.dateOf ▸ accounts.ordered_rest ordered whole)
          rw [accounts.dateOf, accounts.window] at this
          exact this d second
      · rw [unmoved none_held, List.append_nil]
        exact accounts.timely ordered }
  refine { accounts' with rest := clears.rest, late := fun found => ?_ }
  obtain ⟨line, lines, first, isLate, ended⟩ := clears.late found
  rw [accounts.dateOf, accounts.window] at isLate
  exact ⟨line, lines, first, isLate, ended,
    accounts'.bytesRead_lt clears.forwards searched recent first ended⟩

end Clearing

section Steps

variable {source reader : SeekingReader} {given : List UInt8}

theorem Accounts.of_seeks (fresh : IsFresh source) {dropped : List UInt8}
    (seeks : Seeks source dropped source.seek) :
    Accounts source [] { source.seek with hasStarted := true, served := 0, cleared := 0 } := by
  have split := seeks.split
  rw [fresh.buffer, List.nil_append] at split
  have skipped : source.seek.bytesSkipped = dropped.length := by
    rw [seeks.same, fresh.bytesSkipped, Nat.zero_add]
  have taken : source.unread.take dropped.length = dropped := by
    rw [split, List.append_assoc, List.take_left]
  have all (atEnd : source.seek.isAtEnd = true) (empty : source.seek.buffer = #[]) :
      source.unread.length = dropped.length := by
    rw [split, empty, unread_of_atEnd atEnd]
    simp
  constructor
  case window => rw [seeks.same]
  case dateOf => rw [seeks.same]
  case blockSize => rw [seeks.same]
  case served_le => exact Nat.le_refl _
  case cleared_le => exact Nat.zero_le _
  case skipped_le => rw [skipped, split]; simp
  case split =>
    change source.unread = source.unread.take source.seek.bytesSkipped ++
      ([] ++ region source.seek.buffer 0 0) ++
        (region source.seek.buffer 0 source.seek.buffer.size ++ source.seek.unread)
    rw [skipped, taken, region_all, region_self]
    simpa using split
  case bytesRead =>
    change source.seek.bytesRead + source.seek.unread.length = _
    rw [seeks.bytesRead, fresh.bytesRead, Nat.zero_add]
  case ending => exact .inl seeks.ending
  case skipped_whole =>
    rw [skipped, taken]
    refine seeks.whole.imp_right fun ⟨atEnd, empty⟩ => ⟨?_, (all atEnd empty).symm⟩
    simp [due]
  case cleared_whole => exact .inl (by simp [due, IsWhole])
  case early =>
    intro ordered
    rw [skipped, taken]
    have := seeks.early
    rw [fresh.buffer, List.nil_append] at this
    exact this ordered.2
  case timely => simp [due]
  case kept =>
    change _ ∨ source.seek.bytesSkipped = _
    rw [skipped]
    -- what is kept reaches the window, or it is all that there is and the stream has ended
    rcases seeks.whole with whole | ⟨atEnd, empty⟩
    · rcases seeks.kept with ⟨d, member, reaches⟩ | ⟨atEnd, empty⟩
      · refine .inl ⟨d, ?_, reaches⟩
        rw [split, List.append_assoc, dates_append _ whole]
        exact List.mem_append_right _ member
      · exact .inr (all atEnd empty).symm
    · exact .inr (all atEnd empty).symm

theorem standing_start (fresh : IsFresh source) :
    Standing source [] source.start ∧ source.start.hasStarted = true := by
  obtain ⟨dropped, seeks⟩ := seek_spec fresh.atEnd (by simp [fresh.buffer])
  obtain ⟨scanned, scanned_le, searched, recent⟩ := seeks.recent
  have none_late : source.seek.lateFound = false := by rw [seeks.same]; exact fresh.lateFound
  have clears : Clears { source.seek with hasStarted := true, served := 0, cleared := 0 } _ :=
    clear_spec (Nat.le_refl 0) (Nat.zero_le _) (by simp) none_late
  rw [start, if_neg (by simp [fresh.hasStarted])]
  refine ⟨(Accounts.of_seeks fresh seeks).clear clears searched ?_, ?_⟩
  · rw [seeks.same] at recent ⊢
    exact recent
  · rw [clears.same]

theorem Accounts.move (accounts : Accounts source given reader) {after : SeekingReader}
    {given' : List UInt8}
    (frame : after.window = reader.window ∧ after.dateOf = reader.dateOf ∧
      after.blockSize = reader.blockSize ∧ after.bytesSkipped = reader.bytesSkipped)
    (order : after.served ≤ after.cleared ∧ after.cleared ≤ after.buffer.size)
    (passed : given' ++ after.due = given ++ reader.due)
    (ahead : after.held ++ after.unread = reader.held ++ reader.unread)
    (read : after.bytesRead + after.unread.length = reader.bytesRead + reader.unread.length)
    (ending : after.ending = reader.ending ∨ after.ending = none)
    (whole : IsWhole (given ++ reader.due) ∨
      (after.isAtEnd = true ∧ after.held = [] ∧ after.lateFound = false)) :
    Accounts source given' after where
  window := frame.1.trans accounts.window
  dateOf := frame.2.1.trans accounts.dateOf
  blockSize := frame.2.2.1.trans accounts.blockSize
  served_le := order.1
  cleared_le := order.2
  skipped_le := frame.2.2.2 ▸ accounts.skipped_le
  split := by rw [passed, ahead, frame.2.2.2]; exact accounts.split
  bytesRead := read.trans accounts.bytesRead
  ending := by
    rcases ending with same | none_left
    · rw [same]; exact accounts.ending
    · exact .inr none_left
  skipped_whole := by rw [passed, frame.2.2.2]; exact accounts.skipped_whole
  cleared_whole := by rw [passed]; exact whole
  early := by rw [frame.2.2.2]; exact accounts.early
  timely := by rw [passed]; exact accounts.timely
  kept := by rw [frame.2.2.2]; exact accounts.kept

theorem due_eq_nil (none_due : reader.cleared ≤ reader.served) : reader.due = [] := by
  simp [due, region]
  omega

theorem held_compact (same : reader.served = reader.cleared) :
    reader.compact.held = reader.held := by
  simp only [held, compact, same, Nat.sub_self, region_all]
  rfl

theorem Fills.held_append {before after : SeekingReader} (fills : Fills before after)
    (bound : before.cleared ≤ before.buffer.size) :
    after.held ++ after.unread = before.held ++ before.unread := by
  have cleared : after.cleared = before.cleared := by rw [fills.same]
  have inside := fills.size_le.1
  have front := fills.region_eq 0 bound
  have bytes := fills.bytes
  rw [← region_all, ← region_all, ← region_append _ (Nat.zero_le _) bound,
    ← region_append _ (Nat.zero_le _) (Nat.le_trans bound inside), front, List.append_assoc,
    List.append_assoc] at bytes
  rw [held, held, cleared]
  exact List.append_cancel_left bytes

theorem Accounts.compact (accounts : Accounts source given reader)
    (none_due : reader.cleared ≤ reader.served) : Accounts source given reader.compact := by
  have same : reader.served = reader.cleared := Nat.le_antisymm accounts.served_le none_due
  have dueEq : reader.compact.due = reader.due := by
    rw [due_eq_nil none_due, due_eq_nil (by simp [SeekingReader.compact, same])]
  refine accounts.move ⟨rfl, rfl, rfl, rfl⟩ ⟨Nat.zero_le _, by simp [SeekingReader.compact, same]⟩
    (by rw [dueEq]) ?_ rfl (.inl rfl) ?_
  · rw [held_compact same]; rfl
  · rw [held_compact same]; exact accounts.cleared_whole

theorem Accounts.fill (accounts : Accounts source given reader) (goesOn : reader.isAtEnd = false) :
    Accounts source given reader.fill := by
  have fills := fill_spec goesOn
  have served : reader.fill.served = reader.served := by rw [fills.same]
  have cleared : reader.fill.cleared = reader.cleared := by rw [fills.same]
  refine accounts.move ?_ ?_ ?_ (fills.held_append accounts.cleared_le) ?_ (.inl fills.ending) ?_
  · rw [fills.same]; simp
  · rw [served, cleared]
    exact ⟨accounts.served_le, Nat.le_trans accounts.cleared_le fills.size_le.1⟩
  · rw [due, served, cleared, fills.region_eq _ accounts.cleared_le]; rfl
  · rw [fills.bytesRead, fills.unread, List.length_drop]; omega
  · exact .inl (accounts.cleared_whole.resolve_right fun ⟨atEnd, _⟩ => by simp [goesOn] at atEnd)

/-- What was left over has no newline, so the search may begin at the new block. -/
theorem Standing.searched (standing : Standing source given reader)
    (none_due : reader.cleared ≤ reader.served) (goesOn : reader.isAtEnd = false)
    (none_late : reader.lateFound = false) :
    reader.compact.fill.cleared = 0 ∧
      newline ∉ region reader.compact.fill.buffer reader.compact.fill.cleared
        reader.compact.buffer.size := by
  have same : reader.served = reader.cleared := Nat.le_antisymm standing.served_le none_due
  have fills : Fills reader.compact reader.compact.fill := fill_spec goesOn
  have cleared : reader.compact.fill.cleared = 0 := by
    rw [fills.same]; simp [compact, same]
  have unended := standing.rest none_late
  rw [if_neg (by simp [goesOn]), ← held_compact same, held] at unended
  rw [fills.region_eq _ (Nat.le_refl _), cleared]
  exact ⟨rfl, by simpa [compact, same] using unended⟩

theorem Standing.advance (standing : Standing source given reader)
    (none_due : reader.cleared ≤ reader.served) (goesOn : reader.isAtEnd = false)
    (none_late : reader.lateFound = false) : Standing source given reader.advance := by
  have fills : Fills reader.compact reader.compact.fill := fill_spec goesOn
  have accounts := (standing.toAccounts.compact none_due).fill goesOn
  obtain ⟨cleared, searched⟩ := standing.searched none_due goesOn none_late
  have clears := clear_spec (by rw [cleared]; exact Nat.zero_le _) fills.size_le.1 searched
    (by rw [fills.same]; exact none_late)
  have blockSize : reader.compact.fill.blockSize = reader.compact.blockSize := by rw [fills.same]
  refine accounts.clear clears searched ?_
  rw [blockSize]
  exact fills.size_le.2

theorem Standing.give (standing : Standing source given reader) {stop : Nat}
    (lower : reader.served ≤ stop) (upper : stop ≤ reader.cleared) :
    Standing source (given ++ region reader.buffer reader.served stop)
      { reader with served := stop } := by
  have passed : given ++ region reader.buffer reader.served stop ++
      due { reader with served := stop } = given ++ reader.due := by
    rw [List.append_assoc]
    exact congrArg (given ++ ·) (region_append reader.buffer lower upper)
  have accounts : Accounts source (given ++ region reader.buffer reader.served stop)
      { reader with served := stop } :=
    standing.toAccounts.move ⟨rfl, rfl, rfl, rfl⟩ ⟨upper, standing.cleared_le⟩ passed rfl rfl
      (.inl rfl) standing.cleared_whole
  refine { accounts with rest := standing.rest, late := ?_ }
  rw [passed]
  exact standing.late

theorem Standing.tell (standing : Standing source given reader) (atEnd : reader.isAtEnd = true) :
    Standing source given { reader with failure := none, isExhausted := true } := by
  have stillAtEnd :
      isAtEnd { reader with failure := none, isExhausted := true } = reader.isAtEnd := by
    rw [atEnd]
    rfl
  have unread : SeekingReader.unread { reader with failure := none, isExhausted := true } =
      reader.unread := by
    rw [unread_of_atEnd atEnd]; rfl
  have accounts : Accounts source given { reader with failure := none, isExhausted := true } := by
    refine standing.toAccounts.move ⟨rfl, rfl, rfl, rfl⟩ ⟨standing.served_le, standing.cleared_le⟩
      rfl (by rw [unread]; rfl) (by rw [unread]) (.inr rfl) ?_
    rw [stillAtEnd]
    exact standing.cleared_whole
  refine { accounts with rest := ?_, late := ?_ }
  · rw [stillAtEnd]; exact standing.rest
  · rw [stillAtEnd]; exact standing.late

end Steps

end LogQuery.SeekingReader

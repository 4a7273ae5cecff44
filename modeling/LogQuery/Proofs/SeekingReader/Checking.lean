import LogQuery.Proofs.SeekingReader.Reads

/-! What a reader relies on, and a run that checks it.

The search for the last complete line leaves out bytes that should hold no newline. The checked run
searches them all, and it stops wherever the reader relies on something that does not hold. It is
shown to do what the reader does, so that it never stops and the shorter search finds the same.
-/

set_option autoImplicit false

namespace LogQuery.SeekingReader

open ByteStream

variable {source reader : SeekingReader} {given : List UInt8} {start scanned stop place n : Nat}

/-! ### Searching all bytes -/

def newlines (buffer : Array UInt8) (start stop : Nat) : List Nat :=
  (List.range stop).filter fun place => start ≤ place ∧ buffer[place]? = some newline

/-- Just behind the last newline from `start` on, or `start` if there is none; at the end of the
stream, the end of the buffer. -/
def fullEnd (reader : SeekingReader) (start : Nat) : Nat :=
  if reader.isAtEnd then reader.buffer.size
  else (newlines reader.buffer start reader.buffer.size).getLast?.elim start (· + 1)

def IsSearched (reader : SeekingReader) (start scanned : Nat) : Prop :=
  start ≤ scanned ∧ scanned ≤ reader.buffer.size ∧ newline ∉ region reader.buffer start scanned

instance : Decidable (reader.IsSearched start scanned) := inferInstanceAs (Decidable (_ ∧ _ ∧ _))

theorem newlines_succ (buffer : Array UInt8) (start stop : Nat) :
    newlines buffer start (stop + 1) = newlines buffer start stop ++
      if start ≤ stop ∧ buffer[stop]? = some newline then [stop] else [] := by
  rw [newlines, List.range_succ, List.filter_append, List.filter_singleton, newlines]
  simp only [decide_eq_true_eq, cond_eq_ite]

theorem newlines_eq_nil {buffer : Array UInt8} (order : stop ≤ start) :
    newlines buffer start stop = [] := by
  rw [newlines, List.filter_eq_nil_iff]
  intro place member
  rw [List.mem_range] at member
  rw [decide_eq_true_eq]
  omega

theorem lineStart_eq (buffer : Array UInt8) (start stop : Nat) :
    lineStart buffer start stop = (newlines buffer start stop).getLast?.elim start (· + 1) := by
  induction stop with
  | zero => rfl
  | succ stop ih =>
    rw [lineStart]
    split
    · next outside =>
      rw [newlines_eq_nil outside]
      rfl
    · next inside =>
      rw [newlines_succ]
      split
      · next here =>
        rw [if_pos ⟨by omega, here⟩, List.getLast?_concat]
        rfl
      · next other => rw [if_neg fun found => other found.2, List.append_nil, ih]

theorem newline_mem_region {buffer : Array UInt8} (lower : start ≤ place) (upper : place < stop)
    (here : buffer[place]? = some newline) : newline ∈ region buffer start stop := by
  rw [← region_append buffer lower (Nat.le_of_lt upper),
    ← region_append buffer (Nat.le_succ place) upper, region_succ here]
  simp

/-- Leaving out the bytes that were searched makes no difference. -/
theorem completeEnd_eq_fullEnd (searched : reader.IsSearched start scanned) :
    reader.completeEnd start scanned = reader.fullEnd start := by
  obtain ⟨order, _, unended⟩ := searched
  have same : newlines reader.buffer start reader.buffer.size =
      newlines reader.buffer scanned reader.buffer.size := by
    apply List.filter_congr
    intro place _
    rw [decide_eq_decide]
    refine and_congr_left fun here => ⟨fun lower => ?_, order.trans⟩
    by_contra upper
    exact unended (newline_mem_region lower (Nat.lt_of_not_le upper) here)
  rw [completeEnd, fullEnd]
  split
  · rfl
  · rw [lineStart_eq, same]
    cases last : (newlines reader.buffer scanned reader.buffer.size).getLast? with
    | none => exact if_neg (Nat.lt_irrefl scanned)
    | some place =>
      have found := List.mem_of_getLast? last
      rw [newlines, List.mem_filter, decide_eq_true_eq] at found
      exact if_pos (Nat.lt_succ_of_le found.2.1)

/-! ### The checked run -/

def InOrder (reader : SeekingReader) : Prop :=
  reader.served ≤ reader.cleared ∧ reader.cleared ≤ reader.buffer.size

instance : Decidable reader.InOrder := inferInstanceAs (Decidable (_ ∧ _))

def checked (reader : SeekingReader) : Option SeekingReader :=
  if reader.InOrder then some reader else none

/-- The full search, where the reader may leave out the bytes before `scanned`. -/
def completeEnd? (reader : SeekingReader) (start scanned : Nat) : Option Nat :=
  if reader.IsSearched start scanned then some (reader.fullEnd start) else none

example : completeEnd? { ofStream [] secondDay inUtc.ofBytes 16 with buffer := #[newline] } 0 1 =
    none := by decide

def clearLines? (reader : SeekingReader) (stop place : Nat) : Option (Nat × Bool) := do
  let _ ← checked { reader with cleared := place }
  if _h : place < stop then
    let next := lineEnd reader.buffer stop place
    if (reader.dateOf (reader.buffer.extract place next).toList).any (reader.window.finish < ·) then
      return (place, true)
    else reader.clearLines? stop next
  else return (place, false)
termination_by stop - place
decreasing_by exact Nat.sub_lt_sub_left _h (lt_lineEnd _h)

def clear? (reader : SeekingReader) (scanned : Nat) : Option SeekingReader :=
  if reader.lateFound then some reader
  else do
    let complete ← reader.completeEnd? reader.cleared scanned
    if complete == reader.cleared then return reader
    else if (lastDate reader.dateOf reader.buffer reader.cleared complete).any
        (reader.window.finish < ·) then
      let (cleared, lateFound) ← reader.clearLines? complete reader.cleared
      checked { reader with cleared, lateFound }
    else checked { reader with cleared := complete }

/-- Every block, as it is read and as it is dropped, leaves the marks in order. -/
def seek? (reader : SeekingReader) : Option SeekingReader := do
  let filled := reader.fill
  let _ ← filled.checked
  let complete ← filled.completeEnd? 0 reader.buffer.size
  if (lastDate filled.dateOf filled.buffer 0 complete).any (filled.window.start ≤ ·) then
    return filled
  else if _h : filled.isAtEnd then (filled.skip filled.buffer.size).checked
  else
    let _ ← (filled.skip complete).checked
    seek? (filled.skip complete)
termination_by reader.stream.size
decreasing_by exact (fill_atEnd_or_smaller reader).resolve_left _h

def start? (reader : SeekingReader) : Option SeekingReader :=
  if reader.hasStarted then some reader
  else do
    let sought ← reader.seek?
    let started ← checked { sought with hasStarted := true, served := 0, cleared := 0 }
    started.clear? 0

def advance? (reader : SeekingReader) : Option SeekingReader := do
  let reader ← reader.checked
  let compacted ← reader.compact.checked
  let filled ← compacted.fill.checked
  filled.clear? compacted.buffer.size

/-- At the end of the stream, where no line is late, all of the buffer must have been cleared. Each
further block must bring the reader ahead. -/
def serve? (n : Nat) (reader : SeekingReader) :
    Option (Except Failure (List UInt8) × SeekingReader) :=
  if reader.served < reader.cleared then do
    let stop := min (reader.served + n) reader.cleared
    let after ← checked { reader with served := stop }
    return (.ok (reader.buffer.extract reader.served stop).toList, after)
  else if reader.lateFound then some (.ok [], reader)
  else if reader.isAtEnd then
    if reader.cleared = reader.buffer.size then
      match reader.failure with
      | some cause => some (.error cause, { reader with failure := none, isExhausted := true })
      | none => some (.ok [], reader)
    else none
  else do
    let next ← reader.advance?
    if _h : next.ahead < reader.ahead then serve? n next else none
termination_by reader.ahead

def read? (n : Nat) (reader : SeekingReader) :
    Option (Except Failure (List UInt8) × SeekingReader) :=
  if n == 0 then some (.ok [], reader) else reader.start?.bind (serve? n)

def reads? (reader : SeekingReader) : (sizes : List Nat) → Option (List UInt8 × SeekingReader)
  | [] => do return ([], ← reader.checked)
  | n :: sizes => do
    let (result, after) ← reader.read? n
    let (given, final) ← after.reads? sizes
    return (broughtBy result ++ given, final)

/-! ### The checks hold -/

theorem checked_eq (inOrder : reader.InOrder) : reader.checked = some reader := if_pos inOrder

theorem checked_bind {α : Type} (inOrder : reader.InOrder) (next : SeekingReader → Option α) :
    reader.checked >>= next = next reader := by
  rw [checked_eq inOrder]
  rfl

theorem completeEnd?_eq (searched : reader.IsSearched start scanned) :
    reader.completeEnd? start scanned = some (reader.completeEnd start scanned) := by
  rw [completeEnd?, if_pos searched, completeEnd_eq_fullEnd searched]

theorem clearLines?_eq (served : reader.served ≤ place) (order : place ≤ stop)
    (bound : stop ≤ reader.buffer.size) :
    reader.clearLines? stop place =
      some (clearLines reader.dateOf reader.window.finish reader.buffer stop place) := by
  have inOrder {place : Nat} (served : reader.served ≤ place) (order : place ≤ stop) :
      InOrder { reader with cleared := place } := ⟨served, Nat.le_trans order bound⟩
  fun_induction clearLines reader.dateOf reader.window.finish reader.buffer stop place with
  | case1 place inside next late =>
    rw [clearLines?, checked_bind (inOrder served order), dif_pos inside]
    exact if_pos late
  | case2 place inside next timely ih =>
    have further : place < next := lt_lineEnd inside
    rw [clearLines?, checked_bind (inOrder served order), dif_pos inside]
    exact (if_neg timely).trans
      (ih (Nat.le_trans served (Nat.le_of_lt further)) (lineEnd_le (Nat.le_of_lt inside)))
  | case3 place outside =>
    rw [clearLines?, checked_bind (inOrder served order), dif_neg outside]
    rfl

theorem clear?_eq (served : reader.served ≤ reader.cleared)
    (searched : reader.IsSearched reader.cleared scanned) :
    reader.clear? scanned = some (reader.clear scanned) := by
  have complete := completeEnd_spec searched.1 searched.2.1 searched.2.2
  have inOrder : InOrder { reader with cleared := reader.completeEnd reader.cleared scanned } :=
    ⟨Nat.le_trans served complete.forwards, complete.bound⟩
  rw [clear?, clear]
  split
  · rfl
  rw [completeEnd?_eq searched, Option.bind_eq_bind, Option.bind_some]
  dsimp only
  split
  · rfl
  split
  · obtain ⟨forwards, bound, _⟩ := clearLines_eq reader.dateOf reader.window.finish
      complete.forwards complete.bound
    rw [clearLines?_eq served complete.forwards complete.bound]
    exact checked_eq ⟨Nat.le_trans served forwards, Nat.le_trans bound complete.bound⟩
  · exact checked_eq inOrder

/-! Seeking begins with nothing served or cleared, and leaves it so. -/

/-- One block: what the buffer held before it has no newline, and needs no search. -/
theorem seek?_step (goesOn : reader.isAtEnd = false)
    (unended : newline ∉ region reader.buffer 0 reader.buffer.size)
    (marks : reader.served = 0 ∧ reader.cleared = 0) :
    let filled := reader.fill
    let complete := filled.completeEnd 0 reader.buffer.size
    reader.seek? =
      if (lastDate filled.dateOf filled.buffer 0 complete).any (filled.window.start ≤ ·) then
        some filled
      else if filled.isAtEnd then some (filled.skip filled.buffer.size)
      else (filled.skip complete).seek? := by
  intro filled complete
  have fills : Fills reader filled := fill_spec goesOn
  have inOrder {after : SeekingReader} (served : after.served = filled.served)
      (cleared : after.cleared = filled.cleared) : after.InOrder := by
    rw [fills.same] at served cleared
    rw [InOrder, served, cleared, marks.1, marks.2]
    exact ⟨Nat.le_refl 0, Nat.zero_le _⟩
  have searched : filled.IsSearched 0 reader.buffer.size :=
    ⟨Nat.zero_le _, fills.size_le.1, by rwa [fills.region_eq 0 (Nat.le_refl _)]⟩
  have skipped (count : Nat) : (filled.skip count).InOrder := inOrder rfl rfl
  rw [seek?, checked_bind (inOrder rfl rfl), completeEnd?_eq searched, Option.bind_eq_bind,
    Option.bind_some, dite_eq_ite, checked_bind (skipped _), checked_eq (skipped _)]
  rfl

theorem seek?_eq (goesOn : reader.isAtEnd = false)
    (unended : newline ∉ region reader.buffer 0 reader.buffer.size)
    (marks : reader.served = 0 ∧ reader.cleared = 0) : reader.seek? = some reader.seek := by
  fun_induction seek reader with
  | case1 reader scanned filled stop kept =>
    rw [seek?_step goesOn unended marks]
    exact if_pos kept
  | case2 reader scanned filled stop notKept atEnd =>
    rw [seek?_step goesOn unended marks]
    exact (if_neg notKept).trans (if_pos atEnd)
  | case3 reader scanned filled stop notKept notAtEnd ih =>
    have fills : Fills reader filled := fill_spec goesOn
    have complete : CompleteUpTo filled 0 stop := fills.completeUpTo (Nat.zero_le _) unended
    have goesOn' : filled.isAtEnd = false := Bool.eq_false_iff.2 notAtEnd
    rw [seek?_step goesOn unended marks]
    refine (if_neg notKept).trans ((if_neg notAtEnd).trans (ih goesOn' ?_ ?_))
    · rw [region_all, skip_buffer]
      exact complete.unended goesOn'
    · rw [skip, fills.same]
      exact marks

theorem start?_eq (reading : Reading source given reader) : reader.start? = some reader.start := by
  cases reading with
  | fresh fresh =>
    have sought := seek?_eq fresh.atEnd (by simp [fresh.buffer]) ⟨fresh.served, fresh.cleared⟩
    have fresh := Bool.eq_false_iff.1 fresh.hasStarted
    have inOrder : InOrder { source.seek with hasStarted := true, served := 0, cleared := 0 } :=
      ⟨Nat.le_refl 0, Nat.zero_le _⟩
    rw [start?, SeekingReader.start, if_neg fresh, if_neg fresh, sought, Option.bind_eq_bind,
      Option.bind_some]
    refine (checked_bind inOrder _).trans ?_
    exact clear?_eq (Nat.le_refl 0) ⟨Nat.le_refl 0, Nat.zero_le _, by simp⟩
  | started hasStarted standing =>
    rw [start?, SeekingReader.start, if_pos hasStarted, if_pos hasStarted]

theorem Accounts.inOrder (accounts : Accounts source given reader) : reader.InOrder :=
  ⟨accounts.served_le, accounts.cleared_le⟩

theorem advance?_eq (standing : Standing source given reader)
    (none_due : reader.cleared ≤ reader.served) (goesOn : reader.isAtEnd = false)
    (none_late : reader.lateFound = false) : reader.advance? = some reader.advance := by
  have compacts := standing.toAccounts.compact none_due
  have fills : Fills reader.compact reader.compact.fill := fill_spec goesOn
  have filled := compacts.fill goesOn
  obtain ⟨cleared, searched⟩ := standing.searched none_due goesOn none_late
  rw [advance?, checked_bind standing.toAccounts.inOrder, checked_bind compacts.inOrder,
    checked_bind filled.inOrder]
  exact clear?_eq filled.served_le ⟨cleared ▸ Nat.zero_le _, fills.size_le.1, searched⟩

theorem Standing.all_cleared (standing : Standing source given reader)
    (none_late : ¬ reader.lateFound = true) (atEnd : reader.isAtEnd = true) :
    reader.cleared = reader.buffer.size := by
  have none_held := standing.rest (Bool.eq_false_iff.2 none_late)
  have length := length_held standing.cleared_le
  rw [if_pos atEnd] at none_held
  rwa [none_held, List.length_nil, Nat.zero_add] at length

theorem serve?_eq (standing : Standing source given reader) :
    reader.serve? n = some (reader.serve n) := by
  fun_induction serve n reader with
  | case1 reader due stop =>
    have inOrder : InOrder { reader with served := stop } :=
      ⟨Nat.min_le_right _ _, standing.cleared_le⟩
    rw [serve?, if_pos due]
    exact checked_bind inOrder _
  | case2 reader none_due late => rw [serve?, if_neg none_due, if_pos late]
  | case3 reader none_due none_late atEnd cause failure =>
    rw [serve?, if_neg none_due, if_neg none_late, if_pos atEnd,
      if_pos (standing.all_cleared none_late atEnd), failure]
  | case4 reader none_due none_late atEnd none_left =>
    rw [serve?, if_neg none_due, if_neg none_late, if_pos atEnd,
      if_pos (standing.all_cleared none_late atEnd), none_left]
  | case5 reader none_due none_late goesOn ih =>
    have goesOn' : reader.isAtEnd = false := Bool.eq_false_iff.2 goesOn
    have none_late' : reader.lateFound = false := Bool.eq_false_iff.2 none_late
    have next := standing.advance (Nat.le_of_not_lt none_due) goesOn' none_late'
    rw [serve?, if_neg none_due, if_neg none_late, if_neg goesOn,
      advance?_eq standing (Nat.le_of_not_lt none_due) goesOn' none_late']
    exact (dif_pos (ahead_advance goesOn')).trans (ih next)

theorem Reading.inOrder (reading : Reading source given reader) : reader.InOrder := by
  cases reading with
  | fresh fresh =>
    rw [InOrder, fresh.served, fresh.cleared]
    exact ⟨Nat.le_refl 0, Nat.zero_le _⟩
  | started _ standing => exact standing.toAccounts.inOrder

theorem read?_eq (reading : Reading source given reader) :
    reader.read? n = some (reader.read n) := by
  rw [read?, read, start?_eq reading, Option.bind_some, serve?_eq reading.start.1]
  exact (apply_ite some _ _ _).symm

theorem reads?_eq (reading : Reading source given reader) (sizes : List Nat) :
    reader.reads? sizes = some (reader.reads sizes) := by
  induction sizes generalizing given reader with
  | nil =>
    rw [reads?, checked_bind reading.inOrder]
    rfl
  | cons n sizes ih =>
    rw [reads?, read?_eq reading, Option.bind_eq_bind, Option.bind_some]
    dsimp only
    rw [ih (reading.read n).1]
    rfl

/-- The checked run is the run, for every stream and window, with blocks and reads of any size. So
at all times what is served is cleared and what is cleared is in the buffer; each search for the
last complete line leaves out only bytes with no newline, and finds what a search of all bytes
finds; and where the end of the stream is told and no line is late, all of the buffer has been
cleared. -/
theorem reads_checked (stream : ByteStream) (window : Time.Window)
    (dateOf : List UInt8 → Option Time.DateTime) (blockSize : Nat) (sizes : List Nat) :
    (ofStream stream window dateOf blockSize).reads? sizes =
      some ((ofStream stream window dateOf blockSize).reads sizes) :=
  reads?_eq (.fresh (isFresh_ofStream ..)) sizes

end LogQuery.SeekingReader

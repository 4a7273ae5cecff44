import LogQuery.Proofs.Text.Run
import LogQuery.Source.FileName

/-! The names of log files as a grammar.

A name, `.log` or nothing, and for a rotated file a point with the number of its rotation, behind
which its packing may stand. No name holds a point, so each text is cut in one way at most.
-/

set_option autoImplicit false

namespace LogQuery

open Text (Stops stops_nil stops_cons takeWhile_stops dropWhile_stops wordLimit)

def Packing.suffix : Packing → List Char
  | plain => []
  | gzip => ".gz".toList
  | bzip2 => ".bz2".toList

namespace LogFileName

structure IsName (name : List Char) : Prop where
  nonempty : name ≠ []
  chars : ∀ c ∈ name, ('A' ≤ c ∧ c ≤ 'Z') ∨ ('a' ≤ c ∧ c ≤ 'z') ∨ ('0' ≤ c ∧ c ≤ '9') ∨
    c = '_' ∨ c = '-'

structure IsNumeral (digits : List Char) : Prop where
  nonempty : digits ≠ []
  chars : ∀ c ∈ digits, '0' ≤ c ∧ c ≤ '9'

def valueOf (digits : List Char) : Nat := Nat.ofDigitChars 10 digits 0

def logSuffix (isLog : Bool) : List Char := if isLog then ".log".toList else []

/-- What stands behind the name of a file that was rotated `rotation` times. -/
inductive Ending : (rotation : Option Nat) → Packing → List Char → Prop where
  | live : Ending none .plain []
  | rotated {digits : List Char} (packing : Packing) : IsNumeral digits →
    valueOf digits < wordLimit →
    Ending (some (valueOf digits)) packing ('.' :: digits ++ packing.suffix)

/-- Does a text write the name of a log file with these parts? -/
inductive Writes : LogFileName → List Char → Prop where
  | intro {name ending : List Char} {rotation : Option Nat} {packing : Packing} (isLog : Bool) :
    IsName name → Ending rotation packing ending →
    Writes ⟨String.ofList name, rotation, packing⟩ (name ++ (logSuffix isLog ++ ending))

/-! ### Characters -/

theorem isDigit_iff {c : Char} : c.isDigit = true ↔ '0' ≤ c ∧ c ≤ '9' := by
  simp only [Char.isDigit, Bool.and_eq_true, decide_eq_true_eq]
  rfl

theorem isNameChar_iff {c : Char} : isNameChar c = true ↔
    ('A' ≤ c ∧ c ≤ 'Z') ∨ ('a' ≤ c ∧ c ≤ 'z') ∨ ('0' ≤ c ∧ c ≤ '9') ∨ c = '_' ∨ c = '-' := by
  have letter : c.isAlpha = (decide ('A' ≤ c ∧ c ≤ 'Z') ||
      decide ('a' ≤ c) && decide (c ≤ 'z')) := rfl
  simp only [isNameChar, Char.isAlphanum, letter, isDigit_iff, Bool.or_eq_true, Bool.and_eq_true,
    decide_eq_true_eq, beq_iff_eq, or_assoc]

theorem IsNumeral.isDigit {digits : List Char} (numeral : IsNumeral digits) :
    ∀ c ∈ digits, c.isDigit = true :=
  fun c member => isDigit_iff.2 (numeral.chars c member)

theorem IsName.isNameChar {name : List Char} (isName : IsName name) :
    ∀ c ∈ name, LogFileName.isNameChar c = true :=
  fun c member => isNameChar_iff.2 (isName.chars c member)

/-! ### What stands behind the name -/

@[simp] theorem packing?_suffix (packing : Packing) : packing? packing.suffix = some packing := by
  cases packing <;> rfl

theorem eq_suffix_of_packing? {text : List Char} {packing : Packing}
    (read : packing? text = some packing) : text = packing.suffix := by
  unfold packing? at read
  split at read
  · cases read
    rfl
  · cases read
    rfl
  · cases read
    rfl
  · cases read

theorem stops_suffix (packing : Packing) : Stops Char.isDigit packing.suffix := by
  cases packing with
  | plain => exact stops_nil _
  | gzip => exact stops_cons rfl _
  | bzip2 => exact stops_cons rfl _

theorem readWord?_numeral {digits : List Char} (numeral : IsNumeral digits) :
    Text.readWord? digits = if valueOf digits < wordLimit then some (valueOf digits) else none := by
  rw [Text.readWord?_digits numeral.nonempty numeral.isDigit, Option.filter_some]
  simp only [decide_eq_true_eq]
  rfl

theorem readRotation?_numeral {digits : List Char} (numeral : IsNumeral digits)
    (packing : Packing) :
    readRotation? ('.' :: digits ++ packing.suffix) =
      if valueOf digits < wordLimit then some (some (valueOf digits), packing) else none := by
  rw [List.cons_append, readRotation?, takeWhile_stops numeral.isDigit (stops_suffix packing),
    dropWhile_stops numeral.isDigit (stops_suffix packing)]
  simp only [bind, Option.bind_some, readWord?_numeral numeral, packing?_suffix]
  split <;> rfl

theorem readRotation?_ending {rotation : Option Nat} {packing : Packing} {text : List Char}
    (ending : Ending rotation packing text) : readRotation? text = some (rotation, packing) := by
  cases ending with
  | live => rfl
  | rotated packing numeral small => rw [readRotation?_numeral numeral, if_pos small]

theorem ending_of_readRotation? {rotation : Option Nat} {packing : Packing} {text : List Char}
    (read : readRotation? text = some (rotation, packing)) : Ending rotation packing text := by
  unfold readRotation? at read
  split at read
  · cases read
    exact .live
  · next rest =>
    simp only [bind, Option.bind_some, Option.bind_eq_some_iff] at read
    obtain ⟨n, number, p, packed, same⟩ := read
    cases same
    have numeral : IsNumeral (rest.takeWhile Char.isDigit) := by
      refine ⟨fun none_there => ?_, fun c member => isDigit_iff.1 (List.mem_takeWhile_imp member)⟩
      rw [none_there] at number
      cases number
    rw [readWord?_numeral numeral, Option.ite_none_right_eq_some] at number
    obtain ⟨small, value⟩ := number
    cases value
    have written := Ending.rotated packing numeral small
    rwa [← eq_suffix_of_packing? packed, List.cons_append, List.takeWhile_append_dropWhile]
      at written
  · cases read

/-! ### Whole names -/

theorem exists_logSuffix (text : List Char) :
    ∃ isLog, text = logSuffix isLog ++ dropLogSuffix text := by
  unfold dropLogSuffix
  split
  · exact ⟨true, rfl⟩
  · exact ⟨false, rfl⟩

/-- A rotation is not mistaken for `.log`, since a digit stands behind its point. -/
theorem dropLogSuffix_rotation {digits : List Char} (numeral : IsNumeral digits)
    (rest : List Char) : dropLogSuffix ('.' :: digits ++ rest) = '.' :: digits ++ rest := by
  obtain ⟨c, further, rfl⟩ := List.exists_cons_of_ne_nil numeral.nonempty
  have digit := numeral.isDigit c List.mem_cons_self
  unfold dropLogSuffix
  split
  · next same =>
    rw [List.cons_append, List.cons_append, List.cons.injEq, List.cons.injEq] at same
    rw [same.2.1] at digit
    cases digit
  · rfl

theorem Ending.stops_isNameChar {rotation : Option Nat} {packing : Packing} {text : List Char}
    (ending : Ending rotation packing text) : Stops isNameChar text := by
  cases ending with
  | live => exact stops_nil _
  | rotated packing numeral small => exact stops_cons rfl _

theorem Ending.bare {rotation : Option Nat} {packing : Packing} {text : List Char}
    (ending : Ending rotation packing text) : dropLogSuffix text = text := by
  cases ending with
  | live => rfl
  | rotated packing numeral small => exact dropLogSuffix_rotation numeral _

theorem parse?_append {name rest : List Char} (isName : IsName name)
    (stops : Stops isNameChar rest) :
    parse? (String.ofList (name ++ rest)) =
      (readRotation? (dropLogSuffix rest)).map fun (rotation, packing) =>
        ⟨String.ofList name, rotation, packing⟩ := by
  have some_char : name.isEmpty = false := List.isEmpty_eq_false_iff.2 isName.nonempty
  rw [parse?, String.toList_ofList, takeWhile_stops isName.isNameChar stops,
    dropWhile_stops isName.isNameChar stops, some_char]
  cases readRotation? (dropLogSuffix rest) <;> rfl

/-- Behind a name, `.log` or not, what is no `.log` itself is read as a rotation. -/
theorem parse?_named {name tail : List Char} (isName : IsName name) (isLog : Bool)
    (stops : Stops isNameChar tail) (bare : dropLogSuffix tail = tail) :
    parse? (String.ofList (name ++ (logSuffix isLog ++ tail))) =
      (readRotation? tail).map fun (rotation, packing) =>
        ⟨String.ofList name, rotation, packing⟩ := by
  cases isLog with
  | false =>
    have read := parse?_append isName stops
    rwa [bare] at read
  | true => exact parse?_append isName (stops_cons rfl _)

theorem parse?_rotated {name digits : List Char} (isName : IsName name) (isLog : Bool)
    (numeral : IsNumeral digits) (packing : Packing) :
    parse? (String.ofList (name ++ (logSuffix isLog ++ ('.' :: digits ++ packing.suffix)))) =
      if valueOf digits < wordLimit then
        some ⟨String.ofList name, some (valueOf digits), packing⟩
      else none := by
  have stops : Stops isNameChar ('.' :: digits ++ packing.suffix) := stops_cons rfl _
  rw [parse?_named isName isLog stops (dropLogSuffix_rotation numeral _),
    readRotation?_numeral numeral]
  split <;> rfl

theorem parse?_packed {name : List Char} (isName : IsName name) (isLog : Bool) {packing : Packing}
    (packed : packing ≠ .plain) :
    parse? (String.ofList (name ++ (logSuffix isLog ++ packing.suffix))) = none := by
  have stops : Stops isNameChar packing.suffix ∧ dropLogSuffix packing.suffix = packing.suffix ∧
      readRotation? packing.suffix = none := by
    cases packing with
    | plain => exact absurd rfl packed
    | gzip => exact ⟨stops_cons rfl _, rfl, rfl⟩
    | bzip2 => exact ⟨stops_cons rfl _, rfl, rfl⟩
  rw [parse?_named isName isLog stops.1 stops.2.1, stops.2.2]
  rfl

theorem Writes.parse? {file : LogFileName} {text : List Char} (writes : file.Writes text) :
    LogFileName.parse? (String.ofList text) = some file := by
  cases writes with
  | intro isLog isName ending =>
    rw [parse?_named isName isLog ending.stops_isNameChar ending.bare, readRotation?_ending ending]
    rfl

theorem writes_of_parse? {file : LogFileName} {text : String}
    (read : LogFileName.parse? text = some file) : file.Writes text.toList := by
  have isName : ∀ c ∈ text.toList.takeWhile isNameChar, _ := fun c member =>
    isNameChar_iff.1 (List.mem_takeWhile_imp member)
  obtain ⟨isLog, cut⟩ := exists_logSuffix (text.toList.dropWhile isNameChar)
  rw [LogFileName.parse?] at read
  by_cases empty : (text.toList.takeWhile isNameChar).isEmpty
  · rw [empty] at read
    cases read
  · rw [Bool.eq_false_iff.2 empty] at read
    cases behind : readRotation? (dropLogSuffix (text.toList.dropWhile isNameChar)) with
    | none =>
      rw [behind] at read
      cases read
    | some parts =>
      rw [behind] at read
      cases read
      have named : IsName (text.toList.takeWhile isNameChar) :=
        ⟨mt List.isEmpty_iff.2 empty, isName⟩
      have written := Writes.intro isLog named (ending_of_readRotation? behind)
      rwa [← cut, List.takeWhile_append_dropWhile] at written

theorem Writes.chars {file : LogFileName} {text : List Char} (writes : file.Writes text) :
    ∀ c ∈ text, isNameChar c = true ∨ c = '.' := by
  have ofPacking (packing : Packing) : ∀ c ∈ packing.suffix, isNameChar c = true ∨ c = '.' := by
    have all : packing.suffix.all (fun c => isNameChar c || c == '.') = true := by
      cases packing <;> rfl
    simpa using all
  have ofLog (isLog : Bool) : ∀ c ∈ logSuffix isLog, isNameChar c = true ∨ c = '.' := by
    have all : (logSuffix isLog).all (fun c => isNameChar c || c == '.') = true := by
      cases isLog <;> rfl
    simpa using all
  cases writes with
  | intro isLog isName ending =>
    rw [List.forall_mem_append, List.forall_mem_append]
    refine ⟨fun c member => .inl (isName.isNameChar c member), ofLog isLog, ?_⟩
    cases ending with
    | live => exact fun _ member => absurd member List.not_mem_nil
    | rotated packing numeral small =>
      rw [List.cons_append, List.forall_mem_cons, List.forall_mem_append]
      refine ⟨.inr rfl, fun c member => .inl ?_, ofPacking _⟩
      exact isNameChar_iff.2 (.inr (.inr (.inl (numeral.chars c member))))

/-- A text is read as the name of a log file with certain parts exactly if it writes them, and not
at all if it writes none. Among the texts that are refused are those with a rotation that is no
64-bit number, those that end with a newline, and those with a packing behind no rotation. -/
theorem parse?_iff_writes :
    (∀ (text : String) (file : LogFileName), parse? text = some file ↔ file.Writes text.toList) ∧
    (∀ text : String, parse? text = none ↔ ∀ file : LogFileName, ¬ file.Writes text.toList) ∧
    (∀ (name digits : List Char) (isLog : Bool) (packing : Packing),
      IsName name → IsNumeral digits → wordLimit ≤ valueOf digits →
      parse? (String.ofList (name ++ (logSuffix isLog ++ ('.' :: digits ++ packing.suffix)))) =
        none) ∧
    (∀ text : String, parse? (text ++ "\n") = none) ∧
    ∀ (name : List Char) (isLog : Bool) (packing : Packing), IsName name → packing ≠ .plain →
      parse? (String.ofList (name ++ (logSuffix isLog ++ packing.suffix))) = none := by
  have reads (text : String) (file : LogFileName) :
      parse? text = some file ↔ file.Writes text.toList := by
    refine ⟨writes_of_parse?, fun writes => ?_⟩
    rw [← writes.parse?, String.ofList_toList]
  have refuses (text : String) :
      parse? text = none ↔ ∀ file : LogFileName, ¬ file.Writes text.toList := by
    rw [Option.eq_none_iff_forall_ne_some]
    exact forall_congr' fun file => not_congr (reads text file)
  refine ⟨reads, refuses, ?_, ?_, ?_⟩
  · intro name digits isLog packing isName numeral large
    rw [parse?_rotated isName isLog numeral, if_neg (Nat.not_lt.2 large)]
  · intro text
    rw [refuses]
    intro file writes
    rw [String.toList_append] at writes
    have allowed := writes.chars '\n' (List.mem_append_right _ List.mem_cons_self)
    exact absurd allowed (by decide)
  · exact fun name isLog packing isName packed => parse?_packed isName isLog packed

example : parse? "kern.log.12.bz2" = some ⟨"kern", some 12, .bzip2⟩ := by decide

end LogFileName

end LogQuery

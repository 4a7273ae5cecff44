import LogQuery.Proofs.Time.Digits
import LogQuery.Proofs.Time.Foreign

/-! Reading a datetime that is written without a year, with a year put in front of it.

The year is written with as many digits as it has. Read are four of them at most, or any number
behind a sign, so that a year of five digits spoils what comes behind it.
-/

set_option autoImplicit false

namespace LogQuery.Time

open Text (Stops isDigit_of_mem_toDigits)
open Unicode (trimStart)

/-! ### The year -/

theorem toList_natYear (n : Nat) : (toString (n : Int)).toList = Nat.toDigits 10 n :=
  Nat.toList_repr

theorem toList_negYear (n : Nat) :
    (toString (Int.negSucc n)).toList = '-' :: Nat.toDigits 10 (n + 1) := by
  rw [Int.toString_eq_repr, Int.repr_eq_if, if_neg (by omega), String.toList_append]
  exact congrArg _ Nat.toList_repr

theorem takeDigits_word {word rest : List Char} (all : ∀ c ∈ word, c.isDigit = true)
    (stops : Stops Char.isDigit rest) (most : Nat) :
    takeDigits most (word ++ rest) = (word.take most, word.drop most ++ rest) := by
  by_cases short : word.length ≤ most
  · rw [List.take_of_length_le short, List.drop_of_length_le short]
    exact takeDigits_run all short (.inr stops)
  · have length : (word.take most).length = most := by
      rw [List.length_take, Nat.min_eq_left (Nat.le_of_not_le short)]
    have front : ∀ c ∈ word.take most, c.isDigit = true := fun c member =>
      all c (List.mem_of_mem_take member)
    have taken : takeDigits most (word.take most ++ (word.drop most ++ rest)) =
        (word.take most, word.drop most ++ rest) :=
      takeDigits_run front (Nat.le_of_eq length) (.inl length)
    rwa [← List.append_assoc, List.take_append_drop] at taken

theorem readNumber_word {most : Nat} {word rest : List Char} (pos : 0 < most)
    (some_digit : word ≠ []) (all : ∀ c ∈ word, c.isDigit = true) (stops : Stops Char.isDigit rest) :
    readNumber most (word ++ rest) =
      some (Nat.ofDigitChars 10 (word.take most) 0, word.drop most ++ rest) := by
  have front : word.take most ≠ [] := by
    rw [Ne, List.take_eq_nil_iff, not_or]
    exact ⟨Nat.ne_of_gt pos, some_digit⟩
  have value := Text.readDigits?_digits front fun c member => all c (List.mem_of_mem_take member)
  simp [readNumber, takeDigits_word all stops, value]

theorem readNumber_toDigits {most n : Nat} {rest : List Char} (pos : 0 < most)
    (few : n < Nat.pow 10 most) (stops : Stops Char.isDigit rest) :
    readNumber most (Nat.toDigits 10 n ++ rest) = some (n, rest) := by
  have length : (Nat.toDigits 10 n).length ≤ most :=
    (Nat.length_toDigits_le_iff (by decide) pos).2 few
  rw [readNumber_word pos Nat.toDigits_ne_nil isDigit_of_mem_toDigits stops,
    List.take_of_length_le length, List.drop_of_length_le length,
    Nat.ofDigitChars_toDigits (by decide) (by decide)]
  rfl

theorem trimStart_isDigit {c : Char} (digit : c.isDigit = true) (rest : List Char) :
    trimStart (c :: rest) = c :: rest :=
  Text.trimStart_of_stops (Text.stops_cons (not_isBlank_of_isDigit digit) rest)

/-- A year that begins with a digit has no sign, so that four digits are read. -/
theorem readYear_isDigit {c : Char} (digit : c.isDigit = true) (rest : List Char) :
    readYear (c :: rest) = (readNumber 4 (c :: rest)).map fun (n, after) => ((n : Int), after) := by
  rw [readYear, trimStart_isDigit digit]
  split
  · next same => exact absurd (List.cons.inj same).1 (ne_of_isDigit digit (by decide))
  · next same => exact absurd (List.cons.inj same).1 (ne_of_isDigit digit (by decide))
  · rfl

theorem readYear_toString {year : Int} (lower : -1000000 < year) (upper : year ≤ 9999)
    (rest : List Char) :
    readYear ((toString year).toList ++ ' ' :: rest) = some (year, ' ' :: rest) := by
  have stops : Stops Char.isDigit (' ' :: rest) := Text.stops_cons (by decide) rest
  cases year with
  | ofNat n =>
    rw [Int.ofNat_eq_natCast] at upper ⊢
    have read := readNumber_toDigits (by decide : 0 < 4) (show n < 10000 by omega) stops
    obtain ⟨c, word, written⟩ := List.exists_cons_of_ne_nil (@Nat.toDigits_ne_nil n 10)
    have digit : c.isDigit = true := isDigit_of_mem_toDigits c (written ▸ List.mem_cons_self)
    rw [toList_natYear]
    rw [written, List.cons_append] at read ⊢
    rw [readYear_isDigit digit, read]
    rfl
  | negSucc n =>
    have read : readNumber digitsOfWord (Nat.toDigits 10 (n + 1) ++ ' ' :: rest) =
        some (n + 1, ' ' :: rest) :=
      readNumber_toDigits (by decide) (show n + 1 < 1000000000000000000 by omega) stops
    have unspaced : trimStart ('-' :: (Nat.toDigits 10 (n + 1) ++ ' ' :: rest)) =
        '-' :: (Nat.toDigits 10 (n + 1) ++ ' ' :: rest) :=
      Text.trimStart_of_stops (Text.stops_cons (by decide) _)
    simp only [toList_negYear, List.cons_append, readYear, unspaced, read]
    rfl

theorem readYear_longYear {year : Int} (long : 10000 ≤ year) {rest : List Char}
    (stops : Stops Char.isDigit rest) : ∃ start c word, (∀ d ∈ c :: word, d.isDigit = true) ∧
      readYear ((toString year).toList ++ rest) = some (start, c :: word ++ rest) := by
  obtain ⟨n, rfl⟩ := Int.eq_ofNat_of_zero_le (by omega : 0 ≤ year)
  have all := @isDigit_of_mem_toDigits n
  have length : 4 < (Nat.toDigits 10 n).length := by
    rw [← Nat.not_le, Nat.length_toDigits_le_iff (by decide) (by decide)]
    omega
  have read := readNumber_word (by decide : 0 < 4) Nat.toDigits_ne_nil all stops
  rw [toList_natYear]
  generalize Nat.toDigits 10 n = word at all length read
  cases word with
  | nil => cases length
  | cons first word =>
    obtain ⟨c, behind, isRest⟩ : ∃ c behind, (first :: word).drop 4 = c :: behind :=
      List.exists_cons_of_ne_nil (by rw [Ne, List.drop_eq_nil_iff]; exact Nat.not_le.2 length)
    have digits : ∀ d ∈ c :: behind, d.isDigit = true := fun d member =>
      all d (List.mem_of_mem_drop (isRest ▸ member))
    refine ⟨Nat.ofDigitChars 10 ((first :: word).take 4) 0, c, behind, digits, ?_⟩
    rw [List.cons_append] at read ⊢
    rw [readYear_isDigit (all first List.mem_cons_self), read, isRest]
    rfl

/-! ### Behind the year -/

theorem monthNames_isLower : (monthNames.all fun name =>
    (name.toList.map Char.toLower).head?.any Char.isLower) = true := by
  decide

theorem readMonthName_of_stops {text : List Char} (stops : Stops (fun c => c.toLower.isLower) text) :
    readMonthName text = none := by
  simp only [readMonthName]
  split
  · next index found =>
    obtain ⟨inside, same, _⟩ := List.findIdx?_eq_some_iff_getElem.1 found
    obtain ⟨name, member, spelled⟩ := List.mem_map.1 (List.getElem_mem inside)
    have letter := List.all_eq_true.1 monthNames_isLower name member
    rw [spelled, eq_of_beq same] at letter
    cases text with
    | nil => cases letter
    | cons c text => exact absurd letter (Bool.eq_false_iff.1 (stops c rfl))
  · rfl

theorem not_isLower_of_toNat {c : Char} (other : c.toNat < 65 ∨ 122 < c.toNat) :
    c.toLower.isLower = false := by
  rw [toLower_of_toNat (by omega), Bool.eq_false_iff]
  intro lower
  obtain ⟨least, most⟩ := Bool.and_eq_true_iff.1 lower
  have least : 97 ≤ c.toNat := UInt32.le_iff_toNat_le.1 (of_decide_eq_true least)
  have most : c.toNat ≤ 122 := UInt32.le_iff_toNat_le.1 (of_decide_eq_true most)
  omega

theorem not_isLower_of_isDigit {c : Char} (digit : c.isDigit = true) :
    c.toLower.isLower = false := by
  have bounds : 48 ≤ c.toNat ∧ c.toNat ≤ 57 := Char.isDigit_iff_toNat.1 digit
  exact not_isLower_of_toNat (by omega)

theorem not_isLower_of_isBlank {c : Char} (blank : Unicode.isBlank c = true) :
    c.toLower.isLower = false := by
  simp only [Unicode.isBlank, Bool.or_eq_true, Bool.and_eq_true, decide_eq_true_eq,
    beq_iff_eq] at blank
  exact not_isLower_of_toNat (by omega)

theorem isDigit_of_readTwo {least most : Nat} {text : List Char} {found : Nat × List Char}
    (read : readTwo least most text = some found) :
    ∃ c rest, trimStart text = c :: rest ∧ c.isDigit = true := by
  rw [readTwo, Option.filter_eq_some_iff] at read
  cases unspaced : trimStart text with
  | nil =>
    rw [unspaced] at read
    cases read.1
  | cons c rest =>
    refine ⟨c, rest, rfl, ?_⟩
    by_contra other
    rw [unspaced, readNumber, takeDigits, if_neg other] at read
    cases read.1

theorem readTwo_word {least most : Nat} {c : Char} {word rest : List Char}
    {found : Nat × List Char} (all : ∀ d ∈ c :: word, d.isDigit = true)
    (stops : Stops Char.isDigit rest) (read : readTwo least most (c :: word ++ rest) = some found) :
    found.2 = word.drop 1 ++ rest := by
  have number := readNumber_word Nat.two_pos (List.cons_ne_nil c word) all stops
  rw [List.cons_append] at number read
  rw [readTwo, trimStart_isDigit (all c List.mem_cons_self), number,
    Option.filter_eq_some_iff] at read
  rw [← Option.some.inj read.1]
  rfl

namespace Reading

variable {fields : List Field} {reading result : Reading} {text value : List Char} {year : Int}

/-- Fields that begin with the month, or with the day and then the month. -/
inductive BeginsDate : List Field → Prop where
  | month (fields : List Field) : BeginsDate (.monthName :: fields)
  | day (fields : List Field) : BeginsDate (.day :: .blanks :: .monthName :: fields)

def inYear (reading : Reading) (year : Int) : Reading := { reading with year := some year }

theorem read_inYear {field : Field} (other : field ≠ .year) : field.read (reading.inYear year) text =
    (field.read reading text).map fun (result, rest) => (result.inYear year, rest) := by
  cases field with
  | year => exact absurd rfl other
  | blanks => rfl
  | _ => simp only [Field.read, Option.map_map]; rfl

theorem go_inYear (undated : .year ∉ fields) : ofText.go fields (reading.inYear year) text =
    (ofText.go fields reading text).map (inYear · year) := by
  induction fields generalizing reading text with
  | nil => cases text <;> rfl
  | cons field fields ih =>
    rw [List.mem_cons, not_or] at undated
    rw [ofText.go, ofText.go, read_inYear (Ne.symm undated.1)]
    cases field.read reading text with
    | none => rfl
    | some found => exact ih undated.2

theorem isDigit_of_go_day (read : ofText.go (.day :: fields) reading text = some result) :
    ∃ c rest, trimStart text = c :: rest ∧ c.isDigit = true := by
  rw [ofText.go, Field.read] at read
  cases two : readTwo 1 31 text with
  | none =>
    rw [two] at read
    cases read
  | some found => exact isDigit_of_readTwo two

/-- What a date is read from can do without blanks in front. -/
theorem go_trimStart (begins : BeginsDate fields)
    (read : ofText.go fields reading text = some result) :
    ofText.go fields reading (trimStart text) = some result := by
  cases begins with
  | month fields =>
    suffices stops : Stops Unicode.isBlank text by rwa [Text.trimStart_of_stops stops]
    intro c first
    by_contra blank
    have nameless : readMonthName text = none := by
      refine readMonthName_of_stops fun d same => ?_
      obtain rfl := Option.some.inj (first.symm.trans same)
      exact not_isLower_of_isBlank (by simpa using blank)
    rw [ofText.go, Field.read, nameless] at read
    cases read
  | day fields =>
    obtain ⟨c, rest, trimmed, digit⟩ := isDigit_of_go_day read
    have again : trimStart (trimStart text) = trimStart text := by
      rw [trimmed, trimStart_isDigit digit]
    rw [ofText.go, Field.read, readTwo] at read ⊢
    rwa [again]

theorem ofText_inYear (begins : BeginsDate fields) (undated : .year ∉ fields)
    (read : ofText fields value = some reading) (lower : -1000000 < year) (upper : year ≤ 9999) :
    ofText (.year :: .blanks :: fields) ((toString year).toList ++ ' ' :: value) =
      some (reading.inYear year) := by
  have behind : ofText.go fields (inYear {} year) (trimStart value) = some (reading.inYear year) := by
    rw [go_inYear undated, go_trimStart begins read]
    rfl
  rw [ofText, ofText.go, Field.read, readYear_toString lower upper, Option.map_some]
  exact behind

theorem go_monthName {c : Char} (digit : c.isDigit = true) (rest : List Char) :
    ofText.go (.monthName :: fields) reading (c :: rest) = none := by
  have nameless : readMonthName (c :: rest) = none :=
    readMonthName_of_stops
      (Text.stops_cons (p := fun c => c.toLower.isLower) (not_isLower_of_isDigit digit) rest)
  rw [ofText.go, Field.read, nameless]
  rfl

theorem ofText_longYear (begins : BeginsDate fields) (read : ofText fields value = some reading)
    (long : 10000 ≤ year) :
    ofText (.year :: .blanks :: fields) ((toString year).toList ++ ' ' :: value) = none := by
  have stops : Stops Char.isDigit (' ' :: value) := Text.stops_cons (by decide) value
  obtain ⟨start, c, word, all, readYear⟩ := readYear_longYear long stops
  have digit := all c List.mem_cons_self
  rw [ofText, ofText.go, Field.read, readYear, Option.map_some]
  show ofText.go fields _ (trimStart (c :: (word ++ ' ' :: value))) = none
  rw [trimStart_isDigit digit]
  cases begins with
  | month fields => exact go_monthName digit _
  | day fields =>
    rw [ofText.go]
    split
    · next after rest read_day =>
      obtain ⟨found, two, same⟩ := Option.map_eq_some_iff.1 read_day
      obtain rfl : found.2 = rest := (Prod.mk.inj same).2
      show ofText.go (.monthName :: fields) after (trimStart found.2) = none
      rw [readTwo_word all stops two]
      -- what comes next is a digit, of the year or else of the day
      cases left : word.drop 1 with
      | cons d word =>
        have digit : d.isDigit = true :=
          all d (List.mem_cons_of_mem c (List.mem_of_mem_drop (left ▸ List.mem_cons_self)))
        rw [List.cons_append, trimStart_isDigit digit]
        exact go_monthName digit _
      | nil =>
        obtain ⟨d, behind, trimmed, digit⟩ := isDigit_of_go_day read
        show ofText.go (.monthName :: fields) after (trimStart value) = none
        rw [trimmed]
        exact go_monthName digit behind
    · rfl

end Reading

end LogQuery.Time

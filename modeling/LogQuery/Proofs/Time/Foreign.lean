import LogQuery.Proofs.Text.Run
import LogQuery.Proofs.Time.Width
import LogQuery.Time.LineFormat
import Mathlib.Data.List.TakeDrop
import Mathlib.Data.List.TakeWhile

/-! Digits beyond ASCII match a shape, but cannot be read.

No field takes such a digit from the text, and no tidying removes one, so that a text that has one
is never read up to its end.
-/

set_option autoImplicit false

namespace LogQuery.Time

open Unicode (isBlank trimStart)

/-- Is every foreign digit of the text still in `rest`? -/
def Keeps (text rest : List Char) : Prop := ∀ c, IsForeign c → c ∈ text → c ∈ rest

theorem Keeps.refl (text : List Char) : Keeps text text := fun _ _ member => member

theorem Keeps.trans {text middle rest : List Char} (first : Keeps text middle)
    (second : Keeps middle rest) : Keeps text rest :=
  fun c foreign member => second c foreign (first c foreign member)

theorem keeps_append {front : List Char} (native : ∀ c ∈ front, ¬ IsForeign c)
    (rest : List Char) : Keeps (front ++ rest) rest := by
  intro c foreign member
  exact (List.mem_append.1 member).resolve_left fun inFront => native c inFront foreign

theorem keeps_cons {c : Char} (native : ¬ IsForeign c) (rest : List Char) :
    Keeps (c :: rest) rest :=
  show Keeps ([c] ++ rest) rest from keeps_append (by simpa using native) rest

def isAscii (text : List Char) : Bool := text.all fun c => c.toNat < 128

theorem toNat_lt_of_isAscii {text : List Char} (ascii : isAscii text = true) {c : Char}
    (member : c ∈ text) : c.toNat < 128 :=
  of_decide_eq_true (List.all_eq_true.1 ascii c member)

theorem not_isForeign_of_ascii {c : Char} (ascii : c.toNat < 128) : ¬ IsForeign c :=
  fun foreign => Nat.lt_irrefl _ (Nat.lt_of_lt_of_le ascii foreign.1)

theorem not_isForeign_of_isDigit {c : Char} (digit : c.isDigit = true) : ¬ IsForeign c := by
  refine not_isForeign_of_ascii ?_
  simp only [Char.isDigit, Bool.and_eq_true, decide_eq_true_eq, UInt32.le_iff_toNat_le] at digit
  have upper : c.val.toNat ≤ 57 := digit.2
  change c.val.toNat < 128
  omega

/-- The rows of digits lie between the blanks beyond ASCII. -/
theorem digitZeros_between_blanks : ∀ first ∈ Unicode.digitZeros,
    first + 10 ≤ 0x80 ∨ 0xA0 < first ∧ first + 10 ≤ 0x1680 ∨ 0x1680 < first ∧ first + 10 ≤ 0x2000 ∨
      0x205F < first ∧ first + 10 ≤ 0x3000 ∨ 0x3000 < first := by
  decide

theorem not_isForeign_of_isBlank {c : Char} (blank : isBlank c = true) : ¬ IsForeign c := by
  rintro ⟨beyond, digit⟩
  rw [Unicode.isDigit] at digit
  split at digit
  · exact not_isForeign_of_isDigit digit ⟨beyond, by rwa [Unicode.isDigit, if_pos ‹_›]⟩
  · -- a row of ten digits, all of them in one gap between blanks
    obtain ⟨first, member, inRow⟩ := List.any_eq_true.1 digit
    have between := digitZeros_between_blanks first member
    simp only [Bool.and_eq_true, decide_eq_true_eq] at inRow
    simp only [isBlank, Bool.or_eq_true, Bool.and_eq_true, decide_eq_true_eq, beq_iff_eq] at blank
    omega

theorem keeps_dropWhile {drops : Char → Bool} (native : ∀ c, drops c = true → ¬ IsForeign c)
    (text : List Char) : Keeps text (text.dropWhile drops) := by
  intro c foreign member
  rw [← List.takeWhile_append_dropWhile (p := drops) (l := text)] at member
  exact (List.mem_append.1 member).resolve_left fun dropped =>
    native c (List.mem_takeWhile_imp dropped) foreign

theorem keeps_trimStart (text : List Char) : Keeps text (trimStart text) :=
  keeps_dropWhile (fun _ => not_isForeign_of_isBlank) text

/-! ### Fields -/

theorem keeps_takeDigits (most : Nat) (text : List Char) :
    Keeps text (takeDigits most text).2 := by
  induction text generalizing most with
  | nil => cases most <;> exact Keeps.refl _
  | cons c text ih =>
    cases most with
    | zero => exact Keeps.refl _
    | succ most =>
      rw [takeDigits]
      split
      · rename_i digit
        exact (keeps_cons (not_isForeign_of_isDigit digit) text).trans (ih most)
      · exact Keeps.refl _

theorem keeps_readNumber {most n : Nat} {text rest : List Char}
    (read : readNumber most text = some (n, rest)) : Keeps text rest := by
  obtain ⟨_, _, found⟩ := Option.map_eq_some_iff.1 read
  rw [← (Prod.mk.inj found).2]
  exact keeps_takeDigits most text

theorem keeps_readTwo {least most n : Nat} {text rest : List Char}
    (read : readTwo least most text = some (n, rest)) : Keeps text rest :=
  (keeps_trimStart text).trans (keeps_readNumber (Option.filter_eq_some_iff.1 read).1)

theorem keeps_readYear {n : Int} {text rest : List Char}
    (read : readYear text = some (n, rest)) : Keeps text rest := by
  refine (keeps_trimStart text).trans ?_
  unfold readYear at read
  split at read
  · rename_i after eq
    obtain ⟨⟨_, _⟩, number, same⟩ := Option.map_eq_some_iff.1 read
    obtain rfl := (Prod.mk.inj same).2
    rw [eq]
    exact (keeps_cons (not_isForeign_of_ascii (by decide)) after).trans (keeps_readNumber number)
  · rename_i after eq
    obtain ⟨⟨_, _⟩, number, same⟩ := Option.map_eq_some_iff.1 read
    obtain rfl := (Prod.mk.inj same).2
    rw [eq]
    exact (keeps_cons (not_isForeign_of_ascii (by decide)) after).trans (keeps_readNumber number)
  · obtain ⟨⟨_, _⟩, number, same⟩ := Option.map_eq_some_iff.1 read
    obtain rfl := (Prod.mk.inj same).2
    exact keeps_readNumber number

theorem toLower_of_toNat {c : Char} (other : c.toNat < 65 ∨ 90 < c.toNat) : c.toLower = c := by
  apply dif_neg
  intro upper
  have bounds : 65 ≤ c.toNat ∧ c.toNat ≤ 90 := by
    simpa [UInt32.le_iff_toNat_le] using upper
  omega

theorem toLower_of_foreign {c : Char} (foreign : IsForeign c) : c.toLower = c := by
  have := foreign.1
  exact toLower_of_toNat (by omega)

theorem monthNames_ascii :
    (monthNames.all fun name => isAscii (name.toList.map Char.toLower)) = true := by
  decide

theorem keeps_readMonthName {n : Nat} {text rest : List Char}
    (read : readMonthName text = some (n, rest)) : Keeps text rest := by
  unfold readMonthName at read
  dsimp only at read
  split at read
  · rename_i index found
    obtain rfl := (Prod.mk.inj (Option.some_inj.1 read)).2
    obtain ⟨bound, same, _⟩ := List.findIdx?_eq_some_iff_getElem.1 found
    intro c foreign member
    rw [← List.take_append_drop 3 text] at member
    refine (List.mem_append.1 member).resolve_left fun inName => ?_
    -- such a digit is its own lower case, but the names have none
    have lower := List.mem_map_of_mem (f := Char.toLower) inName
    obtain ⟨name, isName, spelled⟩ := List.mem_map.1 (List.getElem_mem bound)
    rw [← eq_of_beq same, ← spelled, toLower_of_foreign foreign] at lower
    have ascii := List.all_eq_true.1 monthNames_ascii name isName
    exact not_isForeign_of_ascii (toNat_lt_of_isAscii ascii lower) foreign
  · simp at read

theorem keeps_readFraction {n : Option Nat} {text rest : List Char}
    (read : readFraction text = some (n, rest)) : Keeps text rest := by
  unfold readFraction at read
  split at read
  · rename_i after
    obtain ⟨_, _, same⟩ := Option.map_eq_some_iff.1 read
    obtain rfl := (Prod.mk.inj same).2
    exact ((keeps_cons (not_isForeign_of_ascii (by decide)) after).trans
      (keeps_takeDigits 9 after)).trans
        (keeps_dropWhile (fun _ => not_isForeign_of_isDigit) _)
  · obtain rfl := (Prod.mk.inj (Option.some_inj.1 read)).2
    exact Keeps.refl _

theorem keeps_readPair {most n : Nat} {text rest : List Char}
    (read : readPair most text = some (n, rest)) : Keeps text rest := by
  unfold readPair at read
  split at read
  · rename_i a b after
    simp only [Option.bind_eq_bind, Option.bind_eq_some_iff] at read
    obtain ⟨tens, aValue, ones, bValue, found⟩ := read
    split at found
    · obtain rfl := (Prod.mk.inj (Option.some_inj.1 found)).2
      exact (keeps_cons (not_isForeign_of_isDigit (Text.isDigit_of_digitValue? aValue)) _).trans
        (keeps_cons (not_isForeign_of_isDigit (Text.isDigit_of_digitValue? bValue)) _)
    · simp at found
  · simp at read

theorem keeps_readSign {west : Bool} {text rest : List Char}
    (read : readSign text = some (west, rest)) : Keeps text rest := by
  -- the typographic minus sign lies beyond ASCII, but is no digit
  have minus : ¬ IsForeign '−' := fun foreign => absurd foreign.2 (by decide)
  unfold readSign at read
  split at read
  · obtain rfl := (Prod.mk.inj (Option.some_inj.1 read)).2
    exact keeps_cons (not_isForeign_of_ascii (by decide)) _
  · obtain rfl := (Prod.mk.inj (Option.some_inj.1 read)).2
    exact keeps_cons (not_isForeign_of_ascii (by decide)) _
  · obtain rfl := (Prod.mk.inj (Option.some_inj.1 read)).2
    exact keeps_cons minus _
  · simp at read

theorem keeps_readOffset {style : OffsetStyle} {n : Int} {text rest : List Char}
    (read : readOffset style text = some (n, rest)) : Keeps text rest := by
  unfold readOffset at read
  split at read
  · obtain rfl := (Prod.mk.inj (Option.some_inj.1 read)).2
    exact keeps_cons (not_isForeign_of_ascii (by decide)) _
  · obtain rfl := (Prod.mk.inj (Option.some_inj.1 read)).2
    exact keeps_cons (not_isForeign_of_ascii (by decide)) _
  · simp only [Option.bind_eq_bind, Option.bind_eq_some_iff, Prod.exists] at read
    obtain ⟨west, afterSign, sign, hours, afterHours, hoursRead, read⟩ := read
    have separator (c : Char) (drops : (c == ':' || isBlank c) = true) : ¬ IsForeign c := by
      rcases Bool.or_eq_true_iff.1 drops with colon | blank
      · rw [eq_of_beq colon]
        exact not_isForeign_of_ascii (by decide)
      · exact not_isForeign_of_isBlank blank
    refine ((keeps_readSign sign).trans (keeps_readPair hoursRead)).trans
      ((keeps_dropWhile separator afterHours).trans ?_)
    split at read
    · rename_i none_left
      rw [List.isEmpty_iff.1 (Bool.and_eq_true_iff.1 none_left).1]
      exact fun _ _ member => absurd member List.not_mem_nil
    · simp only [Option.bind_eq_some_iff, Prod.exists] at read
      obtain ⟨minutes, after, minutesRead, found⟩ := read
      obtain rfl := (Prod.mk.inj (Option.some_inj.1 found)).2
      exact keeps_readPair minutesRead

theorem readText_eq {value text rest : List Char} (read : readText value text = some rest) :
    text = value ++ rest := by
  induction value generalizing text with
  | nil => exact Option.some_inj.1 read
  | cons v value ih =>
    cases text with
    | nil => simp [readText] at read
    | cons c text =>
      rw [readText] at read
      split at read
      · rename_i same
        rw [← eq_of_beq same, ih read, List.cons_append]
      · simp at read

def Field.isAscii : Field → Bool
  | .text value => Time.isAscii value
  | _ => true

theorem Field.exists_value {α : Type} {found : Option (α × List Char)}
    {set : α × List Char → Reading × List Char} {after : Reading} {rest : List Char}
    (read : found.map set = some (after, rest)) (behind : ∀ value, (set value).2 = value.2) :
    ∃ value, found = some (value, rest) := by
  obtain ⟨⟨value, left⟩, isFound, same⟩ := Option.map_eq_some_iff.1 read
  have leaves : left = rest := (behind (value, left)).symm.trans (congrArg Prod.snd same)
  exact ⟨value, leaves ▸ isFound⟩

theorem Field.keeps {field : Field} (ascii : field.isAscii = true) {reading after : Reading}
    {text rest : List Char} (read : field.read reading text = some (after, rest)) :
    Keeps text rest := by
  cases field with
  | text value =>
    obtain ⟨_, found, same⟩ := Option.map_eq_some_iff.1 read
    obtain rfl := (Prod.mk.inj same).2
    rw [readText_eq found]
    exact keeps_append (fun c member => not_isForeign_of_ascii (toNat_lt_of_isAscii ascii member)) _
  | blanks =>
    obtain rfl := (Prod.mk.inj (Option.some_inj.1 read)).2
    exact keeps_trimStart text
  | year =>
    obtain ⟨_, found⟩ := exists_value read fun _ => rfl
    exact keeps_readYear found
  | month | day | hour | minute | second =>
    obtain ⟨_, found⟩ := exists_value read fun _ => rfl
    exact keeps_readTwo found
  | monthName =>
    obtain ⟨_, found⟩ := exists_value read fun _ => rfl
    exact keeps_readMonthName found
  | fraction =>
    obtain ⟨_, found⟩ := exists_value read fun _ => rfl
    exact keeps_readFraction found
  | offset style =>
    obtain ⟨_, found⟩ := exists_value read fun _ => rfl
    exact (keeps_trimStart text).trans (keeps_readOffset found)

/-- A text with a foreign digit is not read up to its end. -/
theorem Reading.ofText_foreign {fields : List Field} (ascii : fields.all Field.isAscii = true)
    {text : List Char} {c : Char} (foreign : IsForeign c) (member : c ∈ text) :
    Reading.ofText fields text = none := by
  suffices ∀ reading, Reading.ofText.go fields reading text = none from this {}
  induction fields generalizing text with
  | nil =>
    intro reading
    cases text with
    | nil => simp at member
    | cons d text => rfl
  | cons field fields ih =>
    intro reading
    rw [List.all_cons, Bool.and_eq_true] at ascii
    rw [Reading.ofText.go]
    split
    · rename_i after rest read
      exact ih ascii.2 (Field.keeps ascii.1 read c foreign member) after
    · rfl

/-! ### Tidyings -/

theorem keeps_collapseBlanks (text : List Char) : Keeps text (collapseBlanks text) := by
  fun_induction collapseBlanks text with
  | case1 => exact Keeps.refl _
  | case2 c blank next rest nextBlank ih =>
    exact (keeps_cons (not_isForeign_of_isBlank blank) _).trans ih
  | case3 c blank next rest notBlank ih =>
    refine (keeps_cons (not_isForeign_of_isBlank blank) _).trans (ih.trans ?_)
    exact fun _ _ member => List.mem_cons_of_mem _ member
  | case4 c blank =>
    intro d foreign member
    rw [List.mem_singleton.1 member] at foreign
    exact absurd foreign (not_isForeign_of_isBlank blank)
  | case5 c rest notBlank ih =>
    intro d foreign member
    rcases List.mem_cons.1 member with rfl | further
    · exact List.mem_cons_self
    · exact List.mem_cons_of_mem c (ih d foreign further)

theorem splitBytes?_eq {bytes : Nat} {text front rest : List Char}
    (split : splitBytes? bytes text = some (front, rest)) : text = front ++ rest := by
  fun_induction splitBytes? bytes text generalizing front with
  | case1 text => simp_all
  | case2 bytes => simp at split
  | case3 bytes c text fits ih =>
    obtain ⟨⟨front', rest'⟩, found, same⟩ := Option.map_eq_some_iff.1 split
    simp only [Prod.mk.injEq] at same
    obtain ⟨rfl, rfl⟩ := same
    rw [List.cons_append, ← ih found]
  | case4 bytes c text long => simp at split

theorem splitLastBytes?_eq {bytes : Nat} {text front rest : List Char}
    (split : splitLastBytes? bytes text = some (front, rest)) : text = front ++ rest := by
  rw [splitLastBytes?] at split
  split at split
  · exact splitBytes?_eq split
  · simp at split

/-- One character that is not a foreign digit may be taken from anywhere. -/
theorem keeps_remove {c : Char} (native : ¬ IsForeign c) (front back : List Char) :
    Keeps (front ++ c :: back) (front ++ back) := by
  intro d foreign member
  rcases List.mem_append.1 member with inFront | inBack
  · exact List.mem_append_left _ inFront
  · exact List.mem_append_right _ (keeps_cons native back d foreign inBack)

theorem keeps_dropOffsetColon (text : List Char) : Keeps text (dropOffsetColon text) := by
  unfold dropOffsetColon
  split
  · rename_i front offset cut
    split
    · rename_i sign _ hours minutes cut'
      split
      · rw [splitLastBytes?_eq cut, splitBytes?_eq cut', ← List.append_assoc]
        exact keeps_remove (not_isForeign_of_ascii (by decide)) _ _
      · exact Keeps.refl _
    · exact Keeps.refl _
  · exact Keeps.refl _

theorem keeps_dropOffsetSpace (text : List Char) : Keeps text (dropOffsetSpace text) := by
  unfold dropOffsetSpace
  split
  · rename_i front sign rest cut
    split
    · rw [splitLastBytes?_eq cut]
      exact keeps_remove (not_isForeign_of_ascii (by decide)) _ _
    · exact Keeps.refl _
  · exact Keeps.refl _

theorem keeps_spellOutZulu (text : List Char) : Keeps text (spellOutZulu text) := by
  unfold spellOutZulu
  split
  · rename_i last
    obtain ⟨front, rfl⟩ := List.getLast?_eq_some_iff.1 last
    rw [List.dropLast_concat]
    intro c foreign member
    have inFront := keeps_remove (not_isForeign_of_ascii (by decide)) front [] c foreign member
    rw [List.append_nil] at inFront
    exact List.mem_append_left _ inFront
  · exact Keeps.refl _

theorem splitLastSpace?_eq {text front word : List Char}
    (split : splitLastSpace? text = some (front, word)) : text = front ++ ' ' :: word := by
  unfold splitLastSpace? at split
  split at split
  · rename_i reversed c rest spanned
    simp only [Option.some.injEq, Prod.mk.injEq] at split
    obtain ⟨rfl, rfl⟩ := split
    rw [List.span_eq_takeWhile_dropWhile, Prod.mk.injEq] at spanned
    have space : c = ' ' := by
      have first := List.head?_dropWhile_not (· != ' ') text.reverse
      rw [spanned.2] at first
      simpa using first
    have whole := List.takeWhile_append_dropWhile (p := (· != ' ')) (l := text.reverse)
    rw [spanned.1, spanned.2, space] at whole
    rw [← List.reverse_reverse text, ← whole]
    simp
  · simp at split

theorem zoneNames_ascii : (zoneNames.all fun zone => isAscii zone.1.toList) = true := by
  decide

theorem ascii_of_zoneOffset? {name offset : List Char} (found : zoneOffset? name = some offset) :
    isAscii name = true := by
  obtain ⟨zone, isZone, _⟩ := Option.map_eq_some_iff.1 found
  have same : zone.1.toList = name := by simpa using List.find?_some isZone
  rw [← same]
  exact List.all_eq_true.1 zoneNames_ascii zone (List.mem_of_find?_eq_some isZone)

theorem Tidying.keeps (tidying : Tidying) (text : List Char) :
    Keeps text (tidying.apply text) := by
  cases tidying with
  | none => exact Keeps.refl text
  | spaces => exact keeps_collapseBlanks text
  | fractionAndOffset =>
    refine Keeps.trans ?_ (((keeps_spellOutZulu _).trans (keeps_dropOffsetColon _)).trans
      (keeps_dropOffsetSpace _))
    intro c foreign member
    refine List.mem_map.2 ⟨c, member, if_neg ?_⟩
    intro comma
    rw [eq_of_beq comma] at foreign
    exact not_isForeign_of_ascii (by decide) foreign
  | zoneName =>
    have filtered : Keeps text (text.filter (· != ',')) := by
      intro c foreign member
      refine List.mem_filter.2 ⟨member, ?_⟩
      rw [bne_iff_ne]
      rintro rfl
      exact not_isForeign_of_ascii (by decide) foreign
    refine filtered.trans ?_
    rw [Tidying.apply]
    split
    · rename_i front name cut
      split
      · rename_i offset found
        rw [splitLastSpace?_eq cut]
        intro c foreign member
        rcases List.mem_append.1 member with inFront | inBack
        · exact List.mem_append_left _ inFront
        · -- the name of a zone is ASCII, so the digit does not stand in it
          have inName := keeps_cons (not_isForeign_of_ascii (by decide)) name c foreign inBack
          have ascii := toNat_lt_of_isAscii (ascii_of_zoneOffset? found) inName
          exact absurd foreign (not_isForeign_of_ascii ascii)
      · exact Keeps.refl _
    · exact Keeps.refl _

end LogQuery.Time

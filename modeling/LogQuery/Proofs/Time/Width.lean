import LogQuery.Proofs.Text.Decode
import LogQuery.Proofs.Time.Shape

/-! How many bytes a match can take.

The shapes of datetimes take ASCII characters and decimal digits of any script. A match of ASCII
characters alone takes as many bytes as characters; one that takes more has a digit beyond ASCII,
which no field reads.
-/

set_option autoImplicit false

namespace LogQuery.Time

def IsForeign (c : Char) : Prop := 128 ≤ c.toNat ∧ Unicode.isDigit c = true

def foreignDigit : Char := '\u0660'

namespace Shape

open Text (weight weightOf)

theorem weightOf_append (front back : List Char) :
    weightOf (front ++ back) = weightOf front + weightOf back := by
  induction front with
  | nil => exact (Nat.zero_add _).symm
  | cons c front ih => rw [List.cons_append, weightOf, weightOf, ih, Nat.add_assoc]

/-- Is every test passed either by ASCII characters only or by just the decimal digits? -/
def IsPlain : Shape → Prop
  | nothing => True
  | one test => (∀ c, test c = true → c.toNat < 128) ∨ test = Unicode.isDigit
  | seq first second => first.IsPlain ∧ second.IsPlain
  | either left right => left.IsPlain ∧ right.IsPlain

def width : Shape → Nat
  | nothing => 0
  | one test => if test foreignDigit then 4 else 1
  | seq first second => first.width + second.width
  | either left right => max left.width right.width

def maxLength : Shape → Nat
  | nothing => 0
  | one _ => 1
  | seq first second => first.maxLength + second.maxLength
  | either left right => max left.maxLength right.maxLength

/-- The number of characters that every match has. -/
def fixedLength? : Shape → Option Nat
  | nothing => some 0
  | one _ => some 1
  | seq first second =>
    match first.fixedLength?, second.fixedLength? with
    | some n, some m => some (n + m)
    | _, _ => none
  | either left right => if left.fixedLength? = right.fixedLength? then left.fixedLength? else none

theorem weight_le (c : Char) : weight c ≤ 4 := by
  rw [weight]
  split <;> omega

section Bounds

variable {shape : Shape} {word : List Char}

theorem weightOf_le (plain : shape.IsPlain) (accepts : shape.Accepts word) :
    weightOf word ≤ shape.width := by
  induction shape generalizing word with
  | nothing => simp [show word = [] from accepts, weightOf]
  | one test =>
    obtain ⟨c, rfl, passes⟩ := accepts
    simp only [weightOf, Nat.add_zero, width]
    rcases plain with ascii | rfl
    · rw [weight, if_pos (ascii c passes)]
      split <;> omega
    · rw [if_pos (by decide)]
      exact weight_le c
  | seq first second firstIh secondIh =>
    obtain ⟨front, back, rfl, inFirst, inSecond⟩ := accepts
    rw [weightOf_append]
    exact Nat.add_le_add (firstIh plain.1 inFirst) (secondIh plain.2 inSecond)
  | either left right leftIh rightIh =>
    rcases accepts with inLeft | inRight
    · exact Nat.le_trans (leftIh plain.1 inLeft) (Nat.le_max_left _ _)
    · exact Nat.le_trans (rightIh plain.2 inRight) (Nat.le_max_right _ _)

theorem length_le (accepts : shape.Accepts word) : word.length ≤ shape.maxLength := by
  induction shape generalizing word with
  | nothing => simp [show word = [] from accepts]
  | one test =>
    obtain ⟨c, rfl, _⟩ := accepts
    exact Nat.le_refl 1
  | seq first second firstIh secondIh =>
    obtain ⟨front, back, rfl, inFirst, inSecond⟩ := accepts
    rw [List.length_append]
    exact Nat.add_le_add (firstIh inFirst) (secondIh inSecond)
  | either left right leftIh rightIh =>
    rcases accepts with inLeft | inRight
    · exact Nat.le_trans (leftIh inLeft) (Nat.le_max_left _ _)
    · exact Nat.le_trans (rightIh inRight) (Nat.le_max_right _ _)

theorem length_eq {n : Nat} (fixed : shape.fixedLength? = some n) (accepts : shape.Accepts word) :
    word.length = n := by
  induction shape generalizing word n with
  | nothing =>
    rw [show word = [] from accepts]
    exact Option.some_inj.1 fixed
  | one test =>
    obtain ⟨c, rfl, _⟩ := accepts
    exact Option.some_inj.1 fixed
  | seq first second firstIh secondIh =>
    obtain ⟨front, back, rfl, inFirst, inSecond⟩ := accepts
    rw [fixedLength?] at fixed
    split at fixed
    · rename_i a b firstFixed secondFixed
      rw [List.length_append, firstIh firstFixed inFirst, secondIh secondFixed inSecond]
      exact Option.some_inj.1 fixed
    · simp at fixed
  | either left right leftIh rightIh =>
    rw [fixedLength?] at fixed
    split at fixed
    · rename_i same
      exact accepts.elim (leftIh fixed) (rightIh (same ▸ fixed))
    · simp at fixed

theorem ascii_or_foreign (plain : shape.IsPlain) (accepts : shape.Accepts word) :
    ∀ c ∈ word, c.toNat < 128 ∨ IsForeign c := by
  induction shape generalizing word with
  | nothing => simp [show word = [] from accepts]
  | one test =>
    obtain ⟨d, rfl, passes⟩ := accepts
    intro c member
    rw [List.mem_singleton.1 member]
    rcases plain with ascii | rfl
    · exact .inl (ascii d passes)
    · rcases Nat.lt_or_ge d.toNat 128 with ascii | beyond
      · exact .inl ascii
      · exact .inr ⟨beyond, passes⟩
  | seq first second firstIh secondIh =>
    obtain ⟨front, back, rfl, inFirst, inSecond⟩ := accepts
    intro c member
    rcases List.mem_append.1 member with inFront | inBack
    · exact firstIh plain.1 inFirst c inFront
    · exact secondIh plain.2 inSecond c inBack
  | either left right leftIh rightIh =>
    exact accepts.elim (leftIh plain.1) (rightIh plain.2)

theorem ascii_of_rejects (plain : shape.IsPlain) (rejects : shape.rejects foreignDigit = true)
    (accepts : shape.Accepts word) : ∀ c ∈ word, c.toNat < 128 := by
  induction shape generalizing word with
  | nothing => simp [show word = [] from accepts]
  | one test =>
    obtain ⟨d, rfl, passes⟩ := accepts
    intro c member
    rw [List.mem_singleton.1 member]
    rcases plain with ascii | rfl
    · exact ascii d passes
    · exact absurd rejects (by decide)
  | seq first second firstIh secondIh =>
    obtain ⟨front, back, rfl, inFirst, inSecond⟩ := accepts
    simp only [Shape.rejects, Bool.and_eq_true] at rejects
    intro c member
    rcases List.mem_append.1 member with inFront | inBack
    · exact firstIh plain.1 rejects.1 inFirst c inFront
    · exact secondIh plain.2 rejects.2 inSecond c inBack
  | either left right leftIh rightIh =>
    simp only [Shape.rejects, Bool.and_eq_true] at rejects
    exact accepts.elim (leftIh plain.1 rejects.1) (rightIh plain.2 rejects.2)

theorem weightOf_ascii (ascii : ∀ c ∈ word, c.toNat < 128) : weightOf word = word.length := by
  induction word with
  | nil => rfl
  | cons c word ih =>
    have rest := ih fun d member => ascii d (List.mem_cons_of_mem c member)
    simp only [weightOf, List.length_cons]
    rw [rest, weight, if_pos (ascii c List.mem_cons_self), Nat.add_comm]

theorem exists_foreign (plain : shape.IsPlain) (accepts : shape.Accepts word)
    (heavy : word.length < weightOf word) : ∃ c ∈ word, IsForeign c := by
  by_contra none_foreign
  refine Nat.lt_irrefl _ (weightOf_ascii (fun c member => ?_) ▸ heavy)
  exact (ascii_or_foreign plain accepts c member).resolve_right fun foreign =>
    none_foreign ⟨c, member, foreign⟩

end Bounds

/-! ### Beginnings that are the same in all matches -/

/-- Do all matches of `front` and then `tail`, of one text, have the same part for `front`? -/
def Determines (front tail : Shape) : Prop :=
  ∀ text x y x' y', front.Accepts x → tail.Accepts y → front.Accepts x' → tail.Accepts y' →
    x ++ y <+: text → x' ++ y' <+: text → x = x'

theorem determines_fixed {front : Shape} {n : Nat} (fixed : front.fixedLength? = some n)
    (tail : Shape) : Determines front tail := by
  intro text x y x' y' front_x _ front_x' _ begins begins'
  have length : x.length = x'.length := by rw [length_eq fixed front_x, length_eq fixed front_x']
  have same := (List.prefix_append x y).trans begins
  have same' := (List.prefix_append x' y').trans begins'
  exact (List.prefix_of_prefix_length_le same same' (Nat.le_of_eq length)).eq_of_length length

theorem determines_run {front tail : Shape} (test : Char → Bool)
    (run : ∀ word, front.Accepts word → ∀ c ∈ word, test c = true)
    (stops : ∀ word, tail.Accepts word → ∃ c rest, word = c :: rest ∧ test c = false) :
    Determines front tail := by
  -- both matches end where the run of such characters does
  have cut (text x y : List Char) (front_x : front.Accepts x) (tail_y : tail.Accepts y)
      (begins : x ++ y <+: text) : x = text.takeWhile test := by
    obtain ⟨rest, rfl⟩ := begins
    obtain ⟨c, y, rfl, fails⟩ := stops y tail_y
    rw [List.append_assoc, List.takeWhile_append_of_pos (run x front_x)]
    simp [fails]
  intro text x y x' y' front_x tail_y front_x' tail_y' begins begins'
  rw [cut text x y front_x tail_y begins, cut text x' y' front_x' tail_y' begins']

theorem determines_seq {first second tail : Shape} (outer : Determines first (seq second tail))
    (inner : Determines second tail) : Determines (seq first second) tail := by
  rintro text _ y _ y' ⟨a, b, rfl, first_a, second_b⟩ tail_y ⟨a', b', rfl, first_a', second_b'⟩
    tail_y' begins begins'
  rw [List.append_assoc] at begins begins'
  obtain rfl := outer text a (b ++ y) a' (b' ++ y') first_a ⟨b, y, rfl, second_b, tail_y⟩ first_a'
    ⟨b', y', rfl, second_b', tail_y'⟩ begins begins'
  have begins_a := (List.prefix_append a (b ++ y)).trans begins
  rw [inner (text.drop a.length) b y b' y' second_b tail_y second_b' tail_y'
    ((prefix_append_iff _ begins_a).1 begins) ((prefix_append_iff _ begins_a).1 begins')]

/-- If one match of a text takes too many bytes, all matches of that text have a foreign digit: it
stands in the part that is the same in all of them. -/
theorem foreign_of_heavy {front tail : Shape} {limit : Nat} (determines : Determines front tail)
    (frontPlain : front.IsPlain) (tailPlain : tail.IsPlain)
    (bound : front.maxLength + tail.width ≤ limit) {text word word' : List Char}
    (accepts : (seq front tail).Accepts word) (accepts' : (seq front tail).Accepts word')
    (begins : word <+: text) (begins' : word' <+: text) (heavy : limit < weightOf word) :
    ∃ c ∈ word', IsForeign c := by
  obtain ⟨x, y, rfl, front_x, tail_y⟩ := accepts
  obtain ⟨x', y', rfl, front_x', tail_y'⟩ := accepts'
  have short := length_le front_x
  have narrow := weightOf_le tailPlain tail_y
  rw [weightOf_append] at heavy
  -- the tail is too narrow to be heavy, so the part in front is
  obtain ⟨c, member, foreign⟩ := exists_foreign frontPlain front_x (by omega)
  rw [determines text x y x' y' front_x tail_y front_x' tail_y' begins begins'] at member
  exact ⟨c, List.mem_append_left _ member, foreign⟩

end Shape

end LogQuery.Time

import LogQuery.Time.Shape
import Mathlib.Data.List.Basic

/-! What a shape takes of a text, said by the characters that are taken.

A shape accepts some words, whatever follows them, and takes those of its words that the text begins
with, in order of preference. So where a text is cut, the shape takes the same words in the same
order, less those that the cut goes through.
-/

set_option autoImplicit false

namespace LogQuery.Time.Shape

def Accepts : Shape → List Char → Prop
  | nothing, word => word = []
  | one test, word => ∃ c, word = [c] ∧ test c = true
  | seq first second, word =>
    ∃ front back, word = front ++ back ∧ first.Accepts front ∧ second.Accepts back
  | either left right, word => left.Accepts word ∨ right.Accepts word

def taken : Shape → List Char → List (List Char)
  | nothing, _ => [[]]
  | one _, [] => []
  | one test, c :: _ => if test c then [[c]] else []
  | seq first second, text =>
    (first.taken text).flatMap fun front =>
      (second.taken (text.drop front.length)).map (front ++ ·)
  | either left right, text => left.taken text ++ right.taken text

def pairs (first second : Shape) (text : List Char) : List (List Char × List Char) :=
  (first.taken text).flatMap fun front => (second.taken (text.drop front.length)).map (front, ·)

theorem taken_seq (first second : Shape) (text : List Char) :
    (seq first second).taken text =
      (pairs first second text).map fun words => words.1 ++ words.2 := by
  simp [taken, pairs, List.map_flatMap, Function.comp_def]

theorem prefix_append_iff {front text : List Char} (back : List Char) (begins : front <+: text) :
    front ++ back <+: text ↔ back <+: text.drop front.length := by
  obtain ⟨rest, rfl⟩ := begins
  rw [List.drop_left]
  exact List.prefix_append_right_inj front

theorem mem_taken {shape : Shape} {text word : List Char} :
    word ∈ shape.taken text ↔ word <+: text ∧ shape.Accepts word := by
  induction shape generalizing text word with
  | nothing =>
    constructor
    · intro member
      rw [List.mem_singleton.1 member]
      exact ⟨List.nil_prefix, rfl⟩
    · rintro ⟨_, rfl⟩
      exact List.mem_singleton.2 rfl
  | one test =>
    cases text with
    | nil =>
      simp only [taken, Accepts, List.not_mem_nil, List.prefix_nil, false_iff]
      rintro ⟨rfl, c, same, _⟩
      simp at same
    | cons c text =>
      by_cases passes : test c = true
      · simp only [taken, if_pos passes, List.mem_singleton, Accepts]
        constructor
        · rintro rfl
          exact ⟨⟨text, rfl⟩, c, rfl, passes⟩
        · rintro ⟨begins, d, rfl, _⟩
          rw [(List.cons_prefix_cons.1 begins).1]
      · simp only [taken, if_neg passes, Accepts, List.not_mem_nil, false_iff]
        rintro ⟨begins, d, rfl, dPasses⟩
        rw [(List.cons_prefix_cons.1 begins).1] at dPasses
        exact passes dPasses
  | seq first second firstIh secondIh =>
    simp only [taken, List.mem_flatMap, List.mem_map, firstIh, secondIh, Accepts]
    constructor
    · rintro ⟨front, ⟨begins, inFirst⟩, back, ⟨further, inSecond⟩, rfl⟩
      exact ⟨(prefix_append_iff back begins).2 further, front, back, rfl, inFirst, inSecond⟩
    · rintro ⟨begins, front, back, rfl, inFirst, inSecond⟩
      have front_begins := (List.prefix_append front back).trans begins
      exact ⟨front, ⟨front_begins, inFirst⟩, back,
        ⟨(prefix_append_iff back front_begins).1 begins, inSecond⟩, rfl⟩
  | either left right leftIh rightIh =>
    simp only [taken, List.mem_append, leftIh, rightIh, Accepts]
    rw [and_or_left]

theorem mem_pairs {first second : Shape} {text front back : List Char} :
    (front, back) ∈ pairs first second text ↔
      front ++ back <+: text ∧ first.Accepts front ∧ second.Accepts back := by
  simp only [pairs, List.mem_flatMap, List.mem_map, Prod.mk.injEq, mem_taken]
  constructor
  · rintro ⟨_, ⟨begins, inFirst⟩, _, ⟨further, inSecond⟩, rfl, rfl⟩
    exact ⟨(prefix_append_iff _ begins).2 further, inFirst, inSecond⟩
  · rintro ⟨begins, inFirst, inSecond⟩
    have front_begins := (List.prefix_append front back).trans begins
    exact ⟨front, ⟨front_begins, inFirst⟩, back,
      ⟨(prefix_append_iff back front_begins).1 begins, inSecond⟩, rfl, rfl⟩

theorem rests_eq (shape : Shape) (text : List Char) :
    shape.rests text = (shape.taken text).map fun word => text.drop word.length := by
  induction shape generalizing text with
  | nothing => rfl
  | one test =>
    cases text with
    | nil => rfl
    | cons c text => simp only [rests, taken]; split <;> rfl
  | seq first second firstIh secondIh =>
    simp only [rests, taken, firstIh, secondIh, List.flatMap_map, List.map_flatMap, List.map_map]
    simp [Function.comp_def, List.drop_drop]
  | either left right leftIh rightIh =>
    simp [rests, taken, leftIh, rightIh]

theorem take_less_rest {word text : List Char} (begins : word <+: text) :
    text.take (text.length - (text.drop word.length).length) = word := by
  rw [List.length_drop, Nat.sub_sub_self begins.length_le]
  exact (List.prefix_iff_eq_take.1 begins).symm

theorem capture?_eq (lead body : Shape) (line : List Char) :
    capture? lead body line = ((pairs lead body line).head?).map (·.2) := by
  rw [capture?, rests_eq, List.flatMap_map, pairs, ← List.head?_map, List.map_flatMap]
  congr 1
  refine List.flatMap_congr fun front member => ?_
  rw [rests_eq, List.map_map, List.map_map]
  refine List.map_congr_left fun back member' => ?_
  exact take_less_rest (mem_taken.1 member').1

/-! ### Cut texts -/

def rejects (c : Char) : Shape → Bool
  | nothing => true
  | one test => !test c
  | seq first second => first.rejects c && second.rejects c
  | either left right => left.rejects c && right.rejects c

theorem not_mem_of_rejects {c : Char} {shape : Shape} (rejects : shape.rejects c = true)
    {word : List Char} (accepts : shape.Accepts word) : c ∉ word := by
  induction shape generalizing word with
  | nothing => simp [show word = [] from accepts]
  | one test =>
    obtain ⟨d, rfl, passes⟩ := accepts
    rintro member
    rw [← List.mem_singleton.1 member] at passes
    simp [Shape.rejects, passes] at rejects
  | seq first second firstIh secondIh =>
    obtain ⟨front, back, rfl, inFirst, inSecond⟩ := accepts
    simp only [Shape.rejects, Bool.and_eq_true] at rejects
    rw [List.mem_append, not_or]
    exact ⟨firstIh rejects.1 inFirst, secondIh rejects.2 inSecond⟩
  | either left right leftIh rightIh =>
    simp only [Shape.rejects, Bool.and_eq_true] at rejects
    exact accepts.elim (leftIh rejects.1) (rightIh rejects.2)

/-- Is every beginning of `short` without the character a beginning of `long`? -/
def BeginsAlike (c : Char) (short long : List Char) : Prop :=
  ∀ word, c ∉ word → word <+: short → word <+: long

theorem BeginsAlike.drop {c : Char} {front short long : List Char}
    (alike : BeginsAlike c (front ++ short) (front ++ long)) (free : c ∉ front) :
    BeginsAlike c short long := by
  intro word wordFree begins
  have both : c ∉ front ++ word := by
    rw [List.mem_append, not_or]
    exact ⟨free, wordFree⟩
  exact (List.prefix_append_right_inj front).1
    (alike _ both ((List.prefix_append_right_inj front).2 begins))

theorem flatMap_filter {α β : Type} (keep : α → Bool) (f : α → List β) (items : List α) :
    (items.filter keep).flatMap f = items.flatMap fun a => if keep a then f a else [] := by
  induction items with
  | nil => rfl
  | cons a items ih =>
    rw [List.filter_cons, List.flatMap_cons]
    split
    · rw [List.flatMap_cons, ih]
    · rw [ih, List.nil_append]

/-- Of two shapes, the words that the first takes of the cut text decide which of the second can
follow. -/
theorem pairs_cut {c : Char} {first second : Shape} {short long : List Char}
    (alike : BeginsAlike c short long) (rejects : first.rejects c = true)
    (firstCut : first.taken short = (first.taken long).filter (· <+: short))
    (secondCut : ∀ short long, BeginsAlike c short long →
      second.taken short = (second.taken long).filter (· <+: short)) :
    pairs first second short =
      (pairs first second long).filter fun words => words.1 ++ words.2 <+: short := by
  rw [pairs, pairs, List.filter_flatMap, firstCut, flatMap_filter]
  refine List.flatMap_congr fun front member => ?_
  obtain ⟨begins, accepts⟩ := mem_taken.1 member
  rw [List.filter_map]
  -- behind a front that is cut through, nothing can follow
  by_cases whole : front <+: short
  · obtain ⟨short, rfl⟩ := whole
    obtain ⟨long, rfl⟩ := begins
    rw [if_pos (by simp), List.drop_left, List.drop_left,
      secondCut short long (alike.drop (not_mem_of_rejects rejects accepts))]
    congr 2
    funext back
    simp [List.prefix_append_right_inj]
  · rw [if_neg (by simpa using whole), eq_comm, List.map_eq_nil_iff, List.filter_eq_nil_iff]
    intro back _
    simp only [Function.comp_apply, decide_eq_true_eq]
    exact fun further => whole ((List.prefix_append front back).trans further)

/-- Of a cut text a shape takes the words that the cut leaves whole. -/
theorem taken_cut {c : Char} {shape : Shape} (rejects : shape.rejects c = true)
    {short long : List Char} (alike : BeginsAlike c short long) :
    shape.taken short = (shape.taken long).filter (· <+: short) := by
  induction shape generalizing short long with
  | nothing => simp [taken]
  -- the cut leaves the first character or nothing
  | one test =>
    have first (d : Char) (rest : List Char) (passes : test d = true) :
        [d] <+: d :: rest ∧ c ≠ d := by
      refine ⟨⟨rest, rfl⟩, fun same => ?_⟩
      subst same
      simp [Shape.rejects, passes] at rejects
    cases short with
    | nil =>
      rw [taken, eq_comm, List.filter_eq_nil_iff]
      intro word member
      obtain ⟨_, d, rfl, _⟩ := mem_taken.1 member
      simp
    | cons d short =>
      by_cases passes : test d = true
      · obtain ⟨begins, other⟩ := first d short passes
        obtain ⟨long, rfl⟩ := alike [d] (by simpa using other) begins
        simp [taken, passes]
      · rw [taken, if_neg passes, eq_comm, List.filter_eq_nil_iff]
        intro word member
        obtain ⟨_, e, rfl, ePasses⟩ := mem_taken.1 member
        simp only [decide_eq_true_eq, List.cons_prefix_cons, List.nil_prefix, and_true]
        rintro rfl
        exact passes ePasses
  | seq first second firstIh secondIh =>
    simp only [Shape.rejects, Bool.and_eq_true] at rejects
    rw [taken_seq, taken_seq, pairs_cut alike rejects.1 (firstIh rejects.1 alike)
      fun _ _ => secondIh rejects.2, List.filter_map]
    rfl
  | either left right leftIh rightIh =>
    simp only [Shape.rejects, Bool.and_eq_true] at rejects
    rw [taken, leftIh rejects.1 alike, rightIh rejects.2 alike, taken, List.filter_append]

end LogQuery.Time.Shape

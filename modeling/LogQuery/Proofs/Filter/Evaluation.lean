import LogQuery.Proofs.Filter.Parser

/-! What a filter says of a record, read off its text: there is a group between its ORs of which
every relation is met.

A text is taken apart into its relations without trees here. The trees come in only to be compared
with that: a chain by OR holds if one of its parts does, and a chain by AND if all of them do.
-/

set_option autoImplicit false

namespace LogQuery.Filter

variable {α : Type}

namespace Grammar

inductive Sequence (Part : List Char → α → Prop) (op : Connective) : List Char → List α → Prop where
  | part {text : List Char} {part : α} : Part text part → Sequence Part op text [part]
  | joined {front text before after : List Char} {parts : List α} {part : α} {token : String} :
      Sequence Part op front parts → Blank before → token ∈ connectiveSpellings op → Blank after →
      Part text part →
      Sequence Part op (front ++ before ++ token.toList ++ after ++ text) (parts ++ [part])

inductive Joins (Means : Filter → α → Prop) (op : Connective) : Filter → List α → Prop where
  | part {tree : Filter} {part : α} : Means tree part → Joins Means op tree [part]
  | joined {left right : Filter} {parts : List α} {part : α} :
      Joins Means op left parts → Means right part →
      Joins Means op (logical op left right) (parts ++ [part])

section Parts

variable {PartTree : List Char → Filter → Prop} {Part : List Char → α → Prop}
  {Means : Filter → α → Prop} {op : Connective} {text : List Char}

theorem Chain.sequence {tree : Filter} (chain : Chain PartTree op text tree)
    (hasParts : ∀ text tree, PartTree text tree → ∃ part, Part text part) :
    ∃ parts, Sequence Part op text parts := by
  induction chain with
  | part written =>
    obtain ⟨part, written⟩ := hasParts _ _ written
    exact ⟨[part], .part written⟩
  | joined _ before spelling after written ih =>
    obtain ⟨parts, sequence⟩ := ih
    obtain ⟨part, written⟩ := hasParts _ _ written
    exact ⟨parts ++ [part], .joined sequence before spelling after written⟩

theorem Sequence.chain {parts : List α} (sequence : Sequence Part op text parts)
    (hasTree : ∀ text part, Part text part → ∃ tree, PartTree text tree ∧ Means tree part) :
    ∃ tree, Chain PartTree op text tree ∧ Joins Means op tree parts := by
  induction sequence with
  | part written =>
    obtain ⟨tree, written, means⟩ := hasTree _ _ written
    exact ⟨tree, .part written, .part means⟩
  | joined _ before spelling after written ih =>
    obtain ⟨left, chain, joins⟩ := ih
    obtain ⟨right, written, means⟩ := hasTree _ _ written
    exact ⟨logical op left right, .joined chain before spelling after written, .joined joins means⟩

end Parts

section

variable [Regex.Engine]

/-- The relations of a filter's text: a list for each of the groups between its ORs. -/
def Groups (text : List Char) (groups : List (List Filter)) : Prop :=
  ∃ before inner after, Blank before ∧ Sequence (Sequence Relation .and) .or inner groups ∧
    Blank after ∧ text = before ++ inner ++ after

theorem Whole.groups {text : List Char} {tree : Filter} (whole : Whole text tree) :
    ∃ groups, Groups text groups := by
  obtain ⟨before, inner, after, blankBefore, alternatives, blankAfter, same⟩ := whole
  obtain ⟨groups, sequence⟩ := Chain.sequence alternatives
    fun _ _ group => Chain.sequence group fun _ relation written => ⟨relation, written⟩
  exact ⟨groups, before, inner, after, blankBefore, sequence, blankAfter, same⟩

def Stands (tree relation : Filter) : Prop := tree = relation ∧ ∃ word, Relation word relation

theorem Groups.whole {text : List Char} {groups : List (List Filter)} (written : Groups text groups) :
    ∃ tree, Whole text tree ∧ Joins (Joins Stands .and) .or tree groups := by
  obtain ⟨before, inner, after, blankBefore, sequence, blankAfter, same⟩ := written
  have group_tree (text : List Char) (relations : List Filter)
      (group : Sequence Relation .and text relations) :
      ∃ tree, Group text tree ∧ Joins Stands .and tree relations :=
    group.chain fun word relation written => ⟨relation, written, rfl, word, written⟩
  obtain ⟨tree, alternatives, joins⟩ := sequence.chain group_tree
  exact ⟨tree, ⟨before, inner, after, blankBefore, alternatives, blankAfter, same⟩, joins⟩

end

end Grammar

open Grammar

/-! ## The truth of trees -/

def operandText (record : Record) : Filter → String
  | literal value => value
  | column 0 => ""
  | column (n + 1) => record.columns[n]?.getD ""
  | _ => ""

theorem valueIn_eq (record : Record) (tree : Filter) :
    tree.valueIn record = tree.operandText record := by
  cases tree with
  | column n =>
    cases n with
    | zero => rfl
    | succ n => simp [valueIn, operandText, Record.column, List.getD_eq_getElem?_getD]
  | _ => rfl

theorem operandText_withoutPatterns (record : Record) (tree : Filter) :
    tree.withoutPatterns.operandText record = tree.operandText record := by
  cases tree with
  | column n => cases n <;> rfl
  | _ => rfl

section

variable [Regex.Engine]

def IsMet (record : Record) : Filter → Prop
  | relation .equal left right _ => left.operandText record = right.operandText record
  | relation .notEqual left right _ => left.operandText record ≠ right.operandText record
  | relation .matching left right _ =>
    ∃ pattern, Regex.Engine.compile? (right.operandText record) = some pattern ∧
      Regex.Engine.isMatch pattern (left.operandText record) = true
  | _ => False

theorem matchesText_iff (value pattern : String) :
    matchesText value pattern = true ↔
      ∃ compiled, Regex.Engine.compile? pattern = some compiled ∧
        Regex.Engine.isMatch compiled value = true := by
  unfold matchesText
  cases Regex.Engine.compile? pattern <;> simp

theorem compile?_of_goesWith {right : Filter} {compiled : Pattern} (record : Record)
    (goesWith : GoesWith (some compiled) .matching right) :
    Regex.Engine.compile? (right.operandText record) = some compiled := by
  obtain ⟨-, value, rfl⟩ := goesWith.isSome_iff.1 rfl
  exact goesWith.2.symm

theorem holds_matching {left right : Filter} {pattern : Option Pattern} (record : Record)
    (goesWith : GoesWith pattern .matching right) :
    (relation .matching left right pattern).holds record =
      matchesText (left.operandText record) (right.operandText record) := by
  cases pattern with
  | none => rw [holds, valueIn_eq, valueIn_eq]
  | some compiled => rw [holds, valueIn_eq, matchesText, compile?_of_goesWith record goesWith]

theorem holds_relation {op : Comparison} {left right : Filter} {pattern : Option Pattern}
    (record : Record) (goesWith : GoesWith pattern op right) :
    (relation op left right pattern).holds record = true ↔
      (relation op left right pattern).IsMet record := by
  cases op with
  | equal => simp [holds, IsMet, valueIn_eq]
  | notEqual => simp [holds, IsMet, valueIn_eq]
  | matching => rw [holds_matching record goesWith, matchesText_iff, IsMet]

theorem holds_of_stands {tree relation : Filter} (record : Record) (stands : Stands tree relation) :
    tree.holds record = true ↔ relation.IsMet record := by
  obtain ⟨rfl, word, written⟩ := stands
  cases written with
  | compared _ _ _ _ _ goesWith => exact holds_relation record goesWith

/-! ### Joined trees -/

section Joined

variable {Means : Filter → α → Prop} {tree : Filter} {parts : List α} {record : Record}
  {Holds : α → Prop}

theorem Grammar.Joins.holds_and (joins : Joins Means .and tree parts)
    (truth : ∀ tree part, Means tree part → (tree.holds record = true ↔ Holds part)) :
    tree.holds record = true ↔ ∀ part ∈ parts, Holds part := by
  induction joins with
  | part means => simpa using truth _ _ means
  | joined _ means ih =>
    rw [holds, Bool.and_eq_true, ih, truth _ _ means, List.forall_mem_append]
    simp

theorem Grammar.Joins.holds_or (joins : Joins Means .or tree parts)
    (truth : ∀ tree part, Means tree part → (tree.holds record = true ↔ Holds part)) :
    tree.holds record = true ↔ ∃ part ∈ parts, Holds part := by
  induction joins with
  | part means => simpa using truth _ _ means
  | joined _ means ih =>
    rw [holds, Bool.or_eq_true, ih, truth _ _ means]
    simp [or_and_right, exists_or]

end Joined

/-! ### Patterns made ready -/

/-- Patterns that are made ready beforehand change nothing, if each is made of the literal that it
stands beside. -/
theorem holds_withoutPatterns {tree : Filter} (record : Record)
    (ready : ∀ op left right pattern, relation op left right pattern ∈ tree.nodes →
      GoesWith pattern op right) :
    tree.withoutPatterns.holds record = tree.holds record := by
  induction tree with
  | literal value => rfl
  | column n => rfl
  | relation op left right pattern =>
    have goesWith := ready op left right pattern List.mem_cons_self
    cases op with
    | equal => simp only [withoutPatterns, holds, valueIn_eq, operandText_withoutPatterns]
    | notEqual => simp only [withoutPatterns, holds, valueIn_eq, operandText_withoutPatterns]
    | matching =>
      rw [holds_matching record goesWith, withoutPatterns, holds, valueIn_eq, valueIn_eq,
        operandText_withoutPatterns, operandText_withoutPatterns]
  | logical op left right ihLeft ihRight =>
    have left_same := ihLeft fun op first second pattern member =>
      ready op first second pattern (List.mem_cons_of_mem _ (List.mem_append_left _ member))
    have right_same := ihRight fun op first second pattern member =>
      ready op first second pattern (List.mem_cons_of_mem _ (List.mem_append_right _ member))
    cases op <;> rw [withoutPatterns, holds, holds, left_same, right_same]

theorem Grammar.Whole.goesWith {text : List Char} {tree left right : Filter} {op : Comparison}
    {pattern : Option Pattern} (whole : Whole text tree)
    (member : relation op left right pattern ∈ tree.nodes) : GoesWith pattern op right := by
  obtain ⟨before, inner, after, _, alternatives, _, _⟩ := whole
  obtain ⟨word, written⟩ := alternatives.relation member
  cases written with
  | compared _ _ _ _ _ goesWith => exact goesWith

/-! ## The reading of a text -/

/-- A filter that was read holds if and only if all relations of some group of its text are met;
that patterns were made ready beforehand makes no difference. -/
theorem holds_iff_group {text : String} {filter : Filter} (parsed : parse text = .ok filter) :
    (∃ groups, Groups text.toList groups) ∧
      ∀ record : Record,
        (∀ groups, Groups text.toList groups →
          (filter.holds record = true ↔ ∃ group ∈ groups, ∀ relation ∈ group, relation.IsMet record)) ∧
        filter.withoutPatterns.holds record = filter.holds record := by
  have whole := parse_iff.1 parsed
  refine ⟨whole.groups, fun record => ⟨fun groups written => ?_, ?_⟩⟩
  · -- the groups are those of a tree that is written by the text too, so they are the filter's
    obtain ⟨tree, written, joins⟩ := written.whole
    have same := parse_iff.2 written
    rw [parsed] at same
    cases same
    exact joins.holds_or fun tree group joined =>
      joined.holds_and fun tree relation stands => holds_of_stands record stands
  · exact holds_withoutPatterns record fun op left right pattern member => whole.goesWith member

end

theorem holds_secondGroup :
    let text := "$1 == \"x\" or $2 ~= \"^b+$\" and $3 != $0"
    let record : Record := { line := "a bbb c", columns := ["a", "bbb", "c"] }
    ∃ filter groups, parse text = .ok filter ∧ Groups text.toList groups ∧
      filter.withoutPatterns.holds record = true ∧
      ∃ group ∈ groups, ∀ relation ∈ group, relation.IsMet record := by
  intro text record
  have found : (parse text).toOption.any (·.holds record) = true := by decide +kernel
  cases parsed : parse text with
  | error e =>
    rw [parsed] at found
    cases found
  | ok filter =>
    rw [parsed] at found
    obtain ⟨⟨groups, written⟩, reading⟩ := holds_iff_group parsed
    obtain ⟨met, same⟩ := reading record
    exact ⟨filter, groups, rfl, written, same.trans found, (met groups written).1 found⟩

end LogQuery.Filter

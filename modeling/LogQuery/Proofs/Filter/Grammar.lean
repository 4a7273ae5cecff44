import LogQuery.Filter.Parser

/-! The grammar of filters, as a relation between a text and the tree that it writes.

A chain is one part or a chain with a connective and one more part behind it, so chains join to the
left. A filter is a chain by OR of chains by AND of relations. Blanks are what Unicode takes for
them, and patterns are what the engine takes for them. -/

set_option autoImplicit false

namespace LogQuery.Filter.Grammar

def Blank (text : List Char) : Prop := ∀ c ∈ text, Unicode.isBlank c = true

theorem blank_nil : Blank [] := by
  rintro c ⟨⟩

theorem Blank.append {front back : List Char} (first : Blank front) (second : Blank back) :
    Blank (front ++ back) :=
  List.forall_mem_append.2 ⟨first, second⟩

inductive Quoted : List Char → List Char → Prop where
  | nil : Quoted [] []
  | plain {c : Char} {text value : List Char} : c ≠ '"' → c ≠ '\\' → Quoted text value →
      Quoted (c :: text) (c :: value)
  | escaped {c : Char} {text value : List Char} : Quoted text value →
      Quoted ('\\' :: c :: text) (c :: value)

inductive Operand : List Char → Filter → Prop where
  | column {digits : List Char} : digits ≠ [] → (∀ c ∈ digits, c.isDigit = true) →
      Nat.ofDigitChars 10 digits 0 < UInt64.size →
      Operand ('$' :: digits) (column (Nat.ofDigitChars 10 digits 0))
  | literal {text value : List Char} : Quoted text value →
      Operand ('"' :: (text ++ ['"'])) (literal (String.ofList value))

def comparisonSpellings : Comparison → List String
  | .equal => ["=="]
  | .notEqual => ["!=", "<>"]
  | .matching => ["~="]

def connectiveSpellings : Connective → List String
  | .and => ["&&", "and", "AND"]
  | .or => ["||", "or", "OR"]

inductive Chain (Part : List Char → Filter → Prop) (op : Connective) : List Char → Filter → Prop where
  | part {text : List Char} {tree : Filter} : Part text tree → Chain Part op text tree
  | joined {front text before after : List Char} {left right : Filter} {token : String} :
      Chain Part op front left → Blank before → token ∈ connectiveSpellings op → Blank after →
      Part text right →
      Chain Part op (front ++ before ++ token.toList ++ after ++ text) (logical op left right)

section

variable [Regex.Engine]

/-- The pattern that goes with a relation: that of a literal which is to be matched, if it writes
one, and none elsewhere. -/
def GoesWith (pattern : Option Pattern) (op : Comparison) (right : Filter) : Prop :=
  match op, right with
  | .matching, .literal value => pattern.isSome = true ∧ pattern = Regex.Engine.compile? value
  | _, _ => pattern = none

inductive Relation : List Char → Filter → Prop where
  | compared {first second before after : List Char} {left right : Filter} {op : Comparison}
      {token : String} {pattern : Option Pattern} :
      Operand first left → Blank before → token ∈ comparisonSpellings op → Blank after →
      Operand second right → GoesWith pattern op right →
      Relation (first ++ before ++ token.toList ++ after ++ second) (relation op left right pattern)

abbrev Group : List Char → Filter → Prop := Chain Relation .and

abbrev Alternatives : List Char → Filter → Prop := Chain Group .or

def Whole (text : List Char) (tree : Filter) : Prop :=
  ∃ before inner after, Blank before ∧ Alternatives inner tree ∧ Blank after ∧
    text = before ++ inner ++ after

end

end LogQuery.Filter.Grammar

namespace LogQuery.Filter

def nodes : Filter → List Filter
  | literal value => [literal value]
  | column n => [column n]
  | relation op left right pattern => relation op left right pattern :: (left.nodes ++ right.nodes)
  | logical op left right => logical op left right :: (left.nodes ++ right.nodes)

def isOperand : Filter → Bool
  | literal _ => true
  | column _ => true
  | _ => false

namespace Grammar

theorem Operand.isOperand {text : List Char} {tree : Filter} (written : Operand text tree) :
    tree.isOperand = true := by
  cases written <;> rfl

theorem nodes_operand {tree : Filter} (operand : tree.isOperand = true) : tree.nodes = [tree] := by
  cases tree <;> first | rfl | cases operand

/-- Whatever a chain is made of belongs to one of its parts or is a chain itself. -/
theorem Chain.nodes {Part : List Char → Filter → Prop} {op : Connective} {text : List Char}
    {tree node : Filter} (written : Chain Part op text tree) (member : node ∈ tree.nodes) :
    (∃ word part, Part word part ∧ node ∈ part.nodes) ∨
      ∃ word left right, Chain Part op word node ∧ node = logical op left right := by
  induction written with
  | part written => exact .inl ⟨_, _, written, member⟩
  | joined front before token after written ih =>
    rw [Filter.nodes, List.mem_cons, List.mem_append] at member
    rcases member with rfl | member | member
    · exact .inr ⟨_, _, _, .joined front before token after written, rfl⟩
    · exact ih member
    · exact .inl ⟨_, _, written, member⟩

section

variable [Regex.Engine]

theorem Relation.nodes {text : List Char} {tree node : Filter} (written : Relation text tree)
    (member : node ∈ tree.nodes) : node = tree ∨ node.isOperand = true := by
  cases written with
  | compared left _ _ _ right _ =>
    have left := left.isOperand
    have right := right.isOperand
    rw [Filter.nodes, nodes_operand left, nodes_operand right] at member
    simp only [List.singleton_append, List.mem_cons, List.not_mem_nil, or_false] at member
    rcases member with rfl | rfl | rfl
    · exact .inl rfl
    · exact .inr left
    · exact .inr right

theorem Group.nodes {text : List Char} {tree node : Filter} (written : Group text tree)
    (member : node ∈ tree.nodes) :
    node.isOperand = true ∨ (∃ word, Relation word node) ∨
      ∃ word left right, Group word node ∧ node = logical .and left right := by
  rcases Chain.nodes written member with ⟨word, part, written, member⟩ | joined
  · rcases written.nodes member with rfl | operand
    · exact .inr (.inl ⟨word, written⟩)
    · exact .inl operand
  · exact .inr (.inr joined)

theorem Group.or_not_mem {text : List Char} {tree left right : Filter} (written : Group text tree) :
    logical .or left right ∉ tree.nodes := by
  intro member
  rcases Group.nodes written member with operand | ⟨word, written⟩ | ⟨word, _, _, _, same⟩
  · cases operand
  · cases written
  · cases same

/-- There is no OR under an AND. -/
theorem Alternatives.not_under_and {text : List Char} {tree left right under : Filter}
    (written : Alternatives text tree) (member : logical .and left right ∈ tree.nodes)
    (below : under ∈ left.nodes ++ right.nodes) (first second : Filter) :
    under ≠ logical .or first second := by
  rintro rfl
  rcases Chain.nodes written member with ⟨word, group, written, member⟩ | ⟨word, _, _, _, same⟩
  · rcases Group.nodes written member with operand | ⟨word, written⟩ | ⟨word, _, _, written, _⟩
    · cases operand
    · cases written
    · exact Group.or_not_mem written (List.mem_cons_of_mem _ below)
  · cases same

theorem Alternatives.relation {text : List Char} {tree left right : Filter} {op : Comparison}
    {pattern : Option Pattern} (written : Alternatives text tree)
    (member : relation op left right pattern ∈ tree.nodes) :
    ∃ word, Relation word (relation op left right pattern) := by
  rcases Chain.nodes written member with ⟨word, group, written, member⟩ | ⟨word, _, _, _, same⟩
  · rcases Group.nodes written member with operand | written | ⟨word, _, _, _, same⟩
    · cases operand
    · exact written
    · cases same
  · cases same

theorem goesWith_other {op : Comparison} {right : Filter}
    (other : ∀ value, op = .matching → right = literal value → False) (pattern : Option Pattern) :
    GoesWith pattern op right ↔ pattern = none := by
  unfold GoesWith
  split
  · next value => exact (other value rfl rfl).elim
  · rfl

theorem GoesWith.isSome_iff {pattern : Option Pattern} {op : Comparison} {right : Filter}
    (goesWith : GoesWith pattern op right) :
    pattern.isSome = true ↔ op = .matching ∧ ∃ value, right = literal value := by
  by_cases searched : ∃ value, op = .matching ∧ right = literal value
  · obtain ⟨value, rfl, rfl⟩ := searched
    simp [goesWith.1]
  · have other : ∀ value, op = .matching → right = literal value → False :=
      fun value matching same => searched ⟨value, matching, same⟩
    rw [(goesWith_other other pattern).1 goesWith]
    simpa using fun matching value => other value matching

end

end Grammar

end LogQuery.Filter

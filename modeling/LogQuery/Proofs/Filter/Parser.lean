import LogQuery.Proofs.Filter.Relations

/-! Reading filters accepts what the grammar writes, with the tree that it writes, and nothing else.

The relations are read into one list, with the connective in front of each, and joined afterwards.
So the grammar's nested chains are compared with that list: `Further` is what the list is read from.
-/

set_option autoImplicit false

namespace LogQuery.Filter

open Grammar
open Text (Stops stops_nil stops_cons trimStart_blank)

theorem spelling_of_readConnective? {text rest : List Char} {op : Connective}
    (read : readConnective? text = some (op, rest)) :
    ∃ token ∈ connectiveSpellings op, text = token.toList ++ rest := by
  unfold readConnective? at read
  split at read <;> cases read
  · exact ⟨"&&", by simp [connectiveSpellings], rfl⟩
  · exact ⟨"and", by simp [connectiveSpellings], rfl⟩
  · exact ⟨"AND", by simp [connectiveSpellings], rfl⟩
  · exact ⟨"||", by simp [connectiveSpellings], rfl⟩
  · exact ⟨"or", by simp [connectiveSpellings], rfl⟩
  · exact ⟨"OR", by simp [connectiveSpellings], rfl⟩

theorem readConnective?_spelling {op : Connective} {token : String}
    (spelling : token ∈ connectiveSpellings op) (rest : List Char) :
    readConnective? (token.toList ++ rest) = some (op, rest) := by
  cases op <;> simp only [connectiveSpellings, List.mem_cons, List.not_mem_nil, or_false] at spelling <;>
    rcases spelling with rfl | rfl | rfl <;> rfl

theorem connective_stops {op : Connective} {token : String}
    (spelling : token ∈ connectiveSpellings op) (rest : List Char) :
    Stops Unicode.isBlank (token.toList ++ rest) ∧ Stops Char.isDigit (token.toList ++ rest) := by
  cases op <;> simp only [connectiveSpellings, List.mem_cons, List.not_mem_nil, or_false] at spelling <;>
    rcases spelling with rfl | rfl | rfl <;> exact ⟨stops_cons (by decide) _, stops_cons (by decide) _⟩

/-! ## The relations behind the first one -/

section

variable [Regex.Engine]

inductive Further : List Char → List (Connective × Filter) → Prop where
  | done {gap : List Char} : Blank gap → Further gap []
  | more {before after text rest : List Char} {op : Connective} {token : String} {next : Filter}
      {further : List (Connective × Filter)} :
      Blank before → token ∈ connectiveSpellings op → Blank after → Relation text next →
      Further rest further →
      Further (before ++ token.toList ++ after ++ text ++ rest) ((op, next) :: further)

theorem Further.stops_isDigit {text : List Char} {further : List (Connective × Filter)}
    (written : Further text further) : Stops Char.isDigit text := by
  cases written with
  | done blank =>
    rw [← List.append_nil text]
    exact stops_blank blank (stops_nil _)
  | more before spelling _ _ _ =>
    simp only [List.append_assoc]
    exact stops_blank before (connective_stops spelling _).2

theorem further_of_parseFurther {text : List Char} {further : List (Connective × Filter)}
    (parsed : parseFurther text = .ok further) : Further text further := by
  fun_induction parseFurther text generalizing further with
  | case1 text connected front =>
    cases parsed
    obtain ⟨gap, blank, cut⟩ := exists_blank text
    rw [cut, front, List.append_nil]
    exact .done blank
  | case2 => cases parsed
  | case3 => cases parsed
  | case4 text op behind connected next rest related ih =>
    obtain ⟨before, blankBefore, cut⟩ := exists_blank text
    obtain ⟨token, spelling, front⟩ := spelling_of_readConnective? connected
    obtain ⟨after, word, blankAfter, relation, behind_eq⟩ := relation_of_parseRelation related
    cases onward : parseFurther rest with
    | error stop =>
      rw [onward] at parsed
      cases parsed
    | ok others =>
      rw [onward] at parsed
      cases parsed
      have written := Further.more blankBefore spelling blankAfter relation (ih onward)
      simp only [List.append_assoc] at written
      rw [cut, front, behind_eq]
      exact written

theorem parseFurther_done {text : List Char} (trimmed : Unicode.trimStart text = []) :
    parseFurther text = .ok [] := by
  rw [parseFurther]
  split
  · rw [trimmed]
  · next connected =>
    rw [trimmed] at connected
    cases connected

theorem parseFurther_more {text behind rest : List Char} {op : Connective} {next : Filter}
    (connected : readConnective? (Unicode.trimStart text) = some (op, behind))
    (related : parseRelation behind = .ok (next, rest)) :
    parseFurther text = (parseFurther rest).map ((op, next) :: ·) := by
  rw [parseFurther]
  split
  · next absent =>
    rw [connected] at absent
    cases absent
  · next present =>
    rw [connected] at present
    cases present
    split
    · next failed =>
      rw [related] at failed
      cases failed
    · next succeeded =>
      rw [related] at succeeded
      cases succeeded
      rfl

theorem parseFurther_further {text : List Char} {further : List (Connective × Filter)}
    (written : Further text further) : parseFurther text = .ok further := by
  induction written with
  | @done gap blank =>
    have trimmed := trimStart_blank blank (stops_nil _)
    rw [List.append_nil] at trimmed
    exact parseFurther_done trimmed
  | @more before after text rest op token next further blankBefore spelling blankAfter relation
      written ih =>
    have connected : readConnective? (Unicode.trimStart
        (before ++ token.toList ++ after ++ text ++ rest)) = some (op, after ++ (text ++ rest)) := by
      simp only [List.append_assoc]
      rw [trimStart_blank blankBefore (connective_stops spelling _).1]
      exact readConnective?_spelling spelling _
    rw [parseFurther_more connected (parseRelation_relation blankAfter relation written.stops_isDigit), ih]
    rfl

/-! ## Joining -/

/-- What was read before the further relations: alternatives with an OR behind them, if any, and the
group that is being read. -/
inductive Begun : List Char → Option Filter → Filter → Prop where
  | first {text : List Char} {group : Filter} : Group text group → Begun text none group
  | next {front before after text : List Char} {token : String} {alternatives group : Filter} :
      Alternatives front alternatives → Blank before → token ∈ connectiveSpellings .or →
      Blank after → Group text group →
      Begun (front ++ before ++ token.toList ++ after ++ text) (some alternatives) group

theorem Begun.alternatives {text : List Char} {earlier : Option Filter} {group : Filter}
    (begun : Begun text earlier group) : Alternatives text (alternative earlier group) := by
  cases begun with
  | first group => exact .part group
  | next earlier before spelling after group => exact .joined earlier before spelling after group

theorem Begun.and {text before after word : List Char} {earlier : Option Filter}
    {group next : Filter} {token : String} (begun : Begun text earlier group)
    (blankBefore : Blank before) (spelling : token ∈ connectiveSpellings .and)
    (blankAfter : Blank after) (relation : Relation word next) :
    Begun (text ++ before ++ token.toList ++ after ++ word) earlier (logical .and group next) := by
  cases begun with
  | first group => exact .first (.joined group blankBefore spelling blankAfter relation)
  | next front blank or_spelling blankBehind group =>
    have begun := Begun.next front blank or_spelling blankBehind
      (.joined group blankBefore spelling blankAfter relation)
    simp only [List.append_assoc] at begun ⊢
    exact begun

/-- Reading on from the left, what was begun ends as alternatives up to the blanks at the end. -/
theorem Begun.joinOnto {text rest : List Char} {earlier : Option Filter} {group : Filter}
    {further : List (Connective × Filter)} (begun : Begun text earlier group)
    (written : Further rest further) :
    ∃ inner gap, Alternatives inner (joinOnto earlier group further) ∧ Blank gap ∧
      text ++ rest = inner ++ gap := by
  -- an AND lengthens the group, an OR turns all that was begun into alternatives
  induction written generalizing text earlier group with
  | done blank => exact ⟨text, _, begun.alternatives, blank, rfl⟩
  | @more before after word rest op token next further blankBefore spelling blankAfter relation
      written ih =>
    cases op with
    | and =>
      obtain ⟨inner, gap, alternatives, blank, same⟩ :=
        ih (begun.and blankBefore spelling blankAfter relation)
      refine ⟨inner, gap, alternatives, blank, ?_⟩
      rw [← same]
      simp only [List.append_assoc]
    | or =>
      obtain ⟨inner, gap, alternatives, blank, same⟩ :=
        ih (.next begun.alternatives blankBefore spelling blankAfter (.part relation))
      refine ⟨inner, gap, alternatives, blank, ?_⟩
      rw [← same]
      simp only [List.append_assoc]

def Runs (text : List Char) (first : Filter) (further : List (Connective × Filter)) : Prop :=
  ∃ word rest, Relation word first ∧ Further rest further ∧ text = word ++ rest

theorem Grammar.Group.runs {text rest : List Char} {group : Filter}
    {further : List (Connective × Filter)} (written : Group text group)
    (behind : Further rest further) :
    ∃ first all, Runs (text ++ rest) first all ∧
      ∀ earlier, joinOnto earlier first all = joinOnto earlier group further := by
  induction written generalizing rest further with
  | part relation => exact ⟨_, _, ⟨_, _, relation, behind, rfl⟩, fun _ => rfl⟩
  | joined front before spelling after relation ih =>
    obtain ⟨first, all, runs, joined⟩ := ih (.more before spelling after relation behind)
    simp only [List.append_assoc] at runs ⊢
    exact ⟨first, all, runs, joined⟩

theorem Grammar.Alternatives.runs {text rest : List Char} {tree : Filter}
    {further : List (Connective × Filter)} (written : Alternatives text tree)
    (behind : Further rest further) :
    ∃ first all earlier group, Runs (text ++ rest) first all ∧
      joinOnto none first all = joinOnto earlier group further ∧ alternative earlier group = tree := by
  -- from the last group to the first: what is behind a group is behind all that is in front of it
  induction written generalizing rest further with
  | part group =>
    obtain ⟨first, all, runs, joined⟩ := Group.runs group behind
    exact ⟨first, all, none, _, runs, joined none, rfl⟩
  | @joined front text before after left right token alternatives blankBefore spelling blankAfter
      group ih =>
    obtain ⟨next, others, ⟨word, tail, relation, onward, same⟩, joinedRight⟩ := Group.runs group behind
    obtain ⟨first, all, earlier, last, runs, joinedLeft, rfl⟩ :=
      ih (.more blankBefore spelling blankAfter relation onward)
    simp only [List.append_assoc] at runs ⊢
    rw [same]
    exact ⟨first, all, some (alternative earlier last), right, runs,
      joinedLeft.trans (joinedRight _), rfl⟩

theorem parseAll_runs {gap text : List Char} {first : Filter} {further : List (Connective × Filter)}
    (blank : Blank gap) (runs : Runs text first further) :
    parseAll (gap ++ text) = .ok (join first further) := by
  obtain ⟨word, rest, written, others, rfl⟩ := runs
  rw [parseAll, parseRelation_relation blank written others.stops_isDigit]
  simp only [bind, Except.bind, parseFurther_further others]
  rfl

theorem parseAll_iff {text : List Char} {tree : Filter} :
    parseAll text = .ok tree ↔ Whole text tree := by
  constructor
  · intro parsed
    obtain ⟨⟨first, rest⟩, related, parsed⟩ := Text.bind_eq_ok_iff.1 parsed
    obtain ⟨further, onward, joined⟩ := Text.bind_eq_ok_iff.1 parsed
    cases joined
    obtain ⟨gap, word, blank, relation, rfl⟩ := relation_of_parseRelation related
    obtain ⟨inner, last, alternatives, blankLast, same⟩ :=
      (Begun.first (.part relation)).joinOnto (further_of_parseFurther onward)
    refine ⟨gap, inner, last, blank, alternatives, blankLast, ?_⟩
    rw [same, List.append_assoc]
  · rintro ⟨gap, inner, last, blank, alternatives, blankLast, rfl⟩
    obtain ⟨first, all, earlier, group, runs, joined, rfl⟩ := alternatives.runs (.done blankLast)
    rw [List.append_assoc, parseAll_runs blank runs]
    exact congrArg Except.ok joined

theorem parse_iff {text : String} {tree : Filter} :
    parse text = .ok tree ↔ Whole text.toList tree := by
  rw [← parseAll_iff, parse]
  cases parseAll text.toList with
  | error stop => exact ⟨fun failed => (nomatch failed), fun failed => (nomatch failed)⟩
  | ok found => simp [Except.mapError]

/-- Reading a filter succeeds on what the grammar writes and brings the tree that it writes. In such
a tree no OR is under an AND, and a relation is between operands and has a pattern if and only if it
matches its left side with a literal. -/
theorem parse_ok_iff (text : String) (tree : Filter) :
    (parse text = .ok tree ↔ Whole text.toList tree) ∧
      (parse text = .ok tree →
        (∀ left right, logical .and left right ∈ tree.nodes →
          ∀ under ∈ left.nodes ++ right.nodes, ∀ first second, under ≠ logical .or first second) ∧
        ∀ op left right pattern, relation op left right pattern ∈ tree.nodes →
          left.isOperand = true ∧ right.isOperand = true ∧
            (pattern.isSome = true ↔ op = .matching ∧ ∃ value, right = literal value)) := by
  refine ⟨parse_iff, fun parsed => ?_⟩
  obtain ⟨before, inner, after, _, alternatives, _, _⟩ := parse_iff.1 parsed
  refine ⟨fun left right member under below => alternatives.not_under_and member below,
    fun op left right pattern member => ?_⟩
  obtain ⟨word, written⟩ := alternatives.relation member
  cases written with
  | compared left _ _ _ right goesWith =>
    exact ⟨left.isOperand, right.isOperand, goesWith.isSome_iff⟩

end

example : parse "$1==\"a\"or$2<>\"b\"and $3==$1" =
    .ok (logical .or (relation .equal (column 1) (literal "a") none)
      (logical .and (relation .notEqual (column 2) (literal "b") none)
        (relation .equal (column 3) (column 1) none))) := by cbv

end LogQuery.Filter

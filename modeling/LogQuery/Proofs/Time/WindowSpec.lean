import LogQuery.Proofs.Text.Outcome
import LogQuery.Time.WindowSpec

/-! What becomes of each part of a window's specification.

A specification is cut at its signs, and of the parts behind the same sign the last one is read. So
a part is lost where another one with its sign follows, be it that the other one is empty. -/

set_option autoImplicit false

namespace LogQuery.Time

/-! ## Cutting at the signs -/

def beginsPart (c : Char) : Bool := c == '-' || c == '+'

/-- The part in front of all signs, and each sign with the part behind it. -/
structure IsCut (text front : List Char) (signed : List (Char × List Char)) : Prop where
  whole : text = front ++ signed.flatMap fun part => part.1 :: part.2
  front : ∀ c ∈ front, beginsPart c = false
  signed : ∀ part ∈ signed, beginsPart part.1 = true ∧ ∀ c ∈ part.2, beginsPart c = false

def behind (sign : Char) (signed : List (Char × List Char)) : List (List Char) :=
  (signed.filter (·.1 == sign)).map (·.2)

theorem behind_cons (sign : Char) (part : Char × List Char) (signed : List (Char × List Char)) :
    behind sign (part :: signed) =
      if part.1 == sign then part.2 :: behind sign signed else behind sign signed := by
  rw [behind, List.filter_cons]
  split <;> rfl

theorem splitAtSigns_cons (c : Char) (text : List Char) :
    splitAtSigns (c :: text) =
      if beginsPart c then ([], (c, (splitAtSigns text).1) :: (splitAtSigns text).2)
      else (c :: (splitAtSigns text).1, (splitAtSigns text).2) := rfl

theorem splitAtSigns_append {word : List Char} (plain : ∀ c ∈ word, beginsPart c = false)
    (rest : List Char) :
    splitAtSigns (word ++ rest) = (word ++ (splitAtSigns rest).1, (splitAtSigns rest).2) := by
  induction word with
  | nil => rfl
  | cons c word ih =>
    rw [List.forall_mem_cons] at plain
    rw [List.cons_append, splitAtSigns_cons, plain.1, ih plain.2]
    rfl

theorem isCut_splitAtSigns (text : List Char) :
    IsCut text (splitAtSigns text).1 (splitAtSigns text).2 := by
  induction text with
  | nil => exact ⟨rfl, by rintro _ ⟨⟩, by rintro _ ⟨⟩⟩
  | cons c text ih =>
    rw [splitAtSigns_cons]
    split
    · next sign =>
      refine ⟨?_, by rintro _ ⟨⟩, ?_⟩
      · rw [List.nil_append, List.flatMap_cons, List.cons_append, ← ih.whole]
      · rw [List.forall_mem_cons]
        exact ⟨⟨sign, ih.front⟩, ih.signed⟩
    · next plain =>
      refine ⟨?_, ?_, ih.signed⟩
      · rw [List.cons_append, ← ih.whole]
      · rw [List.forall_mem_cons]
        exact ⟨Bool.eq_false_iff.2 plain, ih.front⟩

section

variable {text front : List Char} {signed : List (Char × List Char)}

theorem IsCut.splitAtSigns_eq (cut : IsCut text front signed) :
    splitAtSigns text = (front, signed) := by
  obtain ⟨whole, plain, proper⟩ := cut
  have rest : splitAtSigns (signed.flatMap fun part => part.1 :: part.2) = ([], signed) := by
    clear whole
    induction signed with
    | nil => rfl
    | cons part signed ih =>
      rw [List.forall_mem_cons] at proper
      obtain ⟨⟨sign, unsigned⟩, proper⟩ := proper
      rw [List.flatMap_cons, List.cons_append, splitAtSigns_cons, if_pos sign,
        splitAtSigns_append unsigned, ih proper, List.append_nil]
  rw [whole, splitAtSigns_append plain, rest, List.append_nil]

theorem IsCut.ofText_eq (cut : IsCut text front signed) :
    WindowParts.ofText text =
      ⟨front, (behind '-' signed).getLast?, (behind '+' signed).getLast?⟩ := by
  -- the fold begins with parts that a later one replaces
  have kept : ∀ minus plus : Option (List Char),
      signed.foldl (fun (parts : WindowParts) part =>
          if part.1 == '-' then { parts with minus := some part.2 }
          else { parts with plus := some part.2 }) ⟨front, minus, plus⟩ =
        ⟨front, (behind '-' signed).getLast?.or minus, (behind '+' signed).getLast?.or plus⟩ := by
    have signs := fun part member => (cut.signed part member).1
    clear cut
    induction signed with
    | nil => exact fun _ _ => rfl
    | cons part signed ih =>
      obtain ⟨sign, value⟩ := part
      intro minus plus
      rw [List.forall_mem_cons, beginsPart, Bool.or_eq_true, beq_iff_eq, beq_iff_eq] at signs
      rw [List.foldl_cons, behind_cons, behind_cons]
      obtain ⟨rfl | rfl, signs⟩ := signs
      · exact (ih signs (some value) plus).trans (by simp [List.getLast?_cons])
      · exact (ih signs minus (some value)).trans (by simp [List.getLast?_cons])
  rw [WindowParts.ofText, cut.splitAtSigns_eq]
  dsimp only
  rw [kept, Option.or_none, Option.or_none]

end

/-! ## What the parts mean -/

def RefersTo (now : DateTime) (front : List Char) (t : DateTime) : Prop :=
  (front = [] ∧ t = now) ∨ (front ≠ [] ∧ parseReference (String.ofList front) now = .ok t)

/-- What the parts behind one sign say: nothing if all of them are empty, or the length that the
only one says that is not. -/
inductive Says (parts : List (List Char)) : Option Duration → Prop where
  | nothing : parts.filter (!·.isEmpty) = [] → Says parts none
  | length {part : List Char} {d : Duration} : parts.filter (!·.isEmpty) = [part] →
      parseDuration (String.ofList part) = .ok d → Says parts (some d)

theorem Says.of_filter_eq {parts others : List (List Char)} {length : Option Duration}
    (same : parts.filter (!·.isEmpty) = others.filter (!·.isEmpty)) (spoken : Says parts length) :
    Says others length := by
  cases spoken with
  | nothing none_written => exact .nothing (same ▸ none_written)
  | length one_written read => exact .length (same ▸ one_written) read

/-- The window starts before the reference by what the parts behind minus signs say, and ends behind
its start by what those behind plus signs say, or at the present if they say nothing. The calendar
has both ends. -/
def Means (now : DateTime) (front : List Char) (minus plus : List (List Char)) (window : Window) :
    Prop :=
  ∃ t back length, RefersTo now front t ∧ Says minus back ∧ Says plus length ∧
    back.elim (some t) t.sub? = some window.start ∧
    length.elim (some now) window.start.add? = some window.finish

/-- Every part is empty that another one with the same sign follows. -/
structure DropsNothing (signed : List (Char × List Char)) : Prop where
  minus : ∀ part ∈ (behind '-' signed).dropLast, part = []
  plus : ∀ part ∈ (behind '+' signed).dropLast, part = []

theorem filter_getLast? {parts : List (List Char)} (empty : ∀ part ∈ parts.dropLast, part = []) :
    parts.getLast?.toList.filter (!·.isEmpty) = parts.filter (!·.isEmpty) := by
  have none_before : parts.dropLast.filter (!·.isEmpty) = [] := by
    rw [List.filter_eq_nil_iff]
    intro part member
    simp [empty part member]
  rcases List.eq_nil_or_concat parts with rfl | ⟨before, last, rfl⟩
  · rfl
  · rw [List.concat_eq_append, List.dropLast_concat] at none_before
    rw [List.concat_eq_append, List.getLast?_concat, List.filter_append, none_before]
    rfl

theorem means_getLast?_iff {now : DateTime} {front : List Char} {minus plus : List (List Char)}
    {window : Window} (emptyMinus : ∀ part ∈ minus.dropLast, part = [])
    (emptyPlus : ∀ part ∈ plus.dropLast, part = []) :
    Means now front minus.getLast?.toList plus.getLast?.toList window ↔
      Means now front minus plus window := by
  have sameMinus := filter_getLast? emptyMinus
  have samePlus := filter_getLast? emptyPlus
  constructor
  · rintro ⟨t, back, length, refers, saysMinus, saysPlus, ends⟩
    exact ⟨t, back, length, refers, saysMinus.of_filter_eq sameMinus,
      saysPlus.of_filter_eq samePlus, ends⟩
  · rintro ⟨t, back, length, refers, saysMinus, saysPlus, ends⟩
    exact ⟨t, back, length, refers, saysMinus.of_filter_eq sameMinus.symm,
      saysPlus.of_filter_eq samePlus.symm, ends⟩

/-! ## Reading the parts -/

def readFront (now : DateTime) (front : List Char) : Except WindowError DateTime :=
  if front.isEmpty then .ok now else parseReference (String.ofList front) now

def windowFrom (start finish : DateTime) : Except WindowError Window :=
  if finish < start then .error (.startAfterEnd start finish) else .ok ⟨start, finish⟩

theorem parse_eq (spec : String) (now : DateTime) :
    let parts := WindowParts.ofText (Unicode.trim spec.toList)
    Window.parse spec now = (do
      let t ← readFront now parts.reference
      let start ← readEnd parts.minus t t.sub?
      let finish ← readEnd parts.plus now start.add?
      windowFrom start finish) := by
  intro parts
  have ends (start finish : DateTime) :
      (do if finish < start then throw (.startAfterEnd start finish)
          pure ⟨start, finish⟩ : Except WindowError Window) = windowFrom start finish := by
    rw [windowFrom]
    split <;> rfl
  simp only [Window.parse, ends, readFront]
  split <;> rfl

theorem readFront_eq_ok_iff {now t : DateTime} {front : List Char} :
    readFront now front = .ok t ↔ RefersTo now front t := by
  cases front with
  | nil => simp [readFront, RefersTo, eq_comm]
  | cons c front => simp [readFront, RefersTo]

theorem says_toList_iff {part : Option (List Char)} {length : Option Duration} :
    Says part.toList length ↔ match part.filter (!·.isEmpty) with
      | none => length = none
      | some text => ∃ d, length = some d ∧ parseDuration (String.ofList text) = .ok d := by
  have written : part.toList.filter (!·.isEmpty) = (part.filter (!·.isEmpty)).toList := by
    cases part with
    | none => rfl
    | some text => cases text <;> rfl
  split
  · next absent =>
    rw [absent] at written
    constructor
    · rintro (_ | ⟨one_written, _⟩)
      · rfl
      · cases written.symm.trans one_written
    · rintro rfl
      exact .nothing written
  · next text given =>
    rw [given] at written
    constructor
    · rintro (none_written | ⟨one_written, read⟩)
      · cases written.symm.trans none_written
      · cases written.symm.trans one_written
        exact ⟨_, rfl, read⟩
    · rintro ⟨d, rfl, read⟩
      exact .length written read

theorem readEnd_eq_ok_iff {part : Option (List Char)} {otherwise t : DateTime}
    {move? : Duration → Option DateTime} :
    readEnd part otherwise move? = .ok t ↔
      ∃ length, Says part.toList length ∧ length.elim (some otherwise) move? = some t := by
  simp only [says_toList_iff, readEnd]
  generalize part.filter (!·.isEmpty) = written
  cases written with
  | none => simp
  | some text =>
    simp only [Text.bind_eq_ok_iff]
    constructor
    · rintro ⟨d, read, found⟩
      split at found
      · next moved =>
        cases found
        exact ⟨some d, ⟨d, rfl, read⟩, moved⟩
      · cases found
    · rintro ⟨_, ⟨d, rfl, read⟩, moved⟩
      refine ⟨d, read, ?_⟩
      rw [show move? d = some t from moved]

theorem windowFrom_eq_ok_iff {start finish : DateTime} {window : Window} :
    windowFrom start finish = .ok window ↔
      (window.start = start ∧ window.finish = finish) ∧ window.start ≤ window.finish := by
  obtain ⟨first, last⟩ := window
  rw [windowFrom]
  split
  · next early =>
    constructor
    · rintro ⟨⟩
    · rintro ⟨⟨rfl, rfl⟩, inOrder⟩
      exact absurd early (DateTime.not_lt.2 inOrder)
  · next inOrder =>
    constructor
    · rintro ⟨⟩
      exact ⟨⟨rfl, rfl⟩, DateTime.not_lt.1 inOrder⟩
    · rintro ⟨⟨rfl, rfl⟩, _⟩
      rfl

theorem parse_eq_ok_iff {spec : String} {front : List Char} {signed : List (Char × List Char)}
    (cut : IsCut (Unicode.trim spec.toList) front signed) {now : DateTime} {window : Window} :
    Window.parse spec now = .ok window ↔
      Means now front (behind '-' signed).getLast?.toList (behind '+' signed).getLast?.toList
        window ∧ window.start ≤ window.finish := by
  rw [parse_eq, cut.ofText_eq]
  simp only [Text.bind_eq_ok_iff, readFront_eq_ok_iff, readEnd_eq_ok_iff, windowFrom_eq_ok_iff]
  constructor
  · rintro ⟨t, refers, _, ⟨back, saysMinus, start⟩, _, ⟨length, saysPlus, finish⟩, ⟨rfl, rfl⟩,
      inOrder⟩
    exact ⟨⟨t, back, length, refers, saysMinus, saysPlus, start, finish⟩, inOrder⟩
  · rintro ⟨⟨t, back, length, refers, saysMinus, saysPlus, start, finish⟩, inOrder⟩
    exact ⟨t, refers, _, ⟨back, saysMinus, start⟩, _, ⟨length, saysPlus, finish⟩, ⟨rfl, rfl⟩,
      inOrder⟩

/-- A specification is accepted with the window that its parts mean, if of several parts with the
same sign only the last is looked at and if that window is in order. Where no part is dropped that
says anything, all of them count: a specification with a part that cannot be read, or with two parts
behind one sign, is refused. -/
theorem Window.parse_parts {spec : String} {front : List Char} {signed : List (Char × List Char)}
    (cut : IsCut (Unicode.trim spec.toList) front signed) (now : DateTime) (window : Window) :
    (Window.parse spec now = .ok window ↔
      Means now front (behind '-' signed).getLast?.toList (behind '+' signed).getLast?.toList
        window ∧ window.start ≤ window.finish) ∧
    (DropsNothing signed →
      (Window.parse spec now = .ok window ↔
        Means now front (behind '-' signed) (behind '+' signed) window ∧
          window.start ≤ window.finish)) := by
  refine ⟨parse_eq_ok_iff cut, fun dropless => ?_⟩
  rw [parse_eq_ok_iff cut, means_getLast?_iff dropless.minus dropless.plus]

def afternoon : DateTime := ⟨1478178312, toNano 1234, 0⟩

theorem parse_quarterHour :
    let front := "12:30".toList
    let signed := [('-', "48h".toList), ('+', []), ('+', "15m".toList)]
    IsCut (Unicode.trim "12:30-48h++15m".toList) front signed ∧ DropsNothing signed ∧
      Means afternoon front (behind '-' signed) (behind '+' signed)
        ⟨⟨1478003400, toNano 0, 0⟩, ⟨1478004300, toNano 0, 0⟩⟩ := by
  intro front signed
  have cut : IsCut (Unicode.trim "12:30-48h++15m".toList) front signed := isCut_splitAtSigns _
  have dropless : DropsNothing signed := ⟨by decide, by decide⟩
  exact ⟨cut, dropless, (((Window.parse_parts cut afternoon _).2 dropless).1 rfl).1⟩

/-- An empty part takes the place of the part with the same sign in front of it, although a sign
with nothing behind it should count as not written. -/
theorem loneSign_drops :
    let signed := [('-', "1h".toList), ('-', [])]
    IsCut (Unicode.trim "-1h-".toList) [] signed ∧
      Window.parse "-1h-" afternoon = .ok ⟨afternoon, afternoon⟩ ∧
      ¬ Means afternoon [] (behind '-' signed) (behind '+' signed) ⟨afternoon, afternoon⟩ := by
  intro signed
  refine ⟨isCut_splitAtSigns _, rfl, ?_⟩
  rintro ⟨t, back, length, ⟨-, rfl⟩ | ⟨written, -⟩, saysMinus, -, start, -⟩
  · have hour : parseDuration "1h" = .ok 3600000000000 := rfl
    cases saysMinus with
    | nothing none_written => exact absurd none_written (by decide)
    | @length part d one_written read =>
      have only : [part] = ["1h".toList] := one_written.symm.trans rfl
      cases only
      cases hour.symm.trans read
      exact absurd start (by decide)
  · exact written rfl

end LogQuery.Time

import LogQuery.Filter.Basic
import LogQuery.Text.Basic
import LogQuery.Text.ControlPicture
import LogQuery.Unicode.Basic

/-! Reading filters such as `$1 == "a" and $2 ~= "b"`.

A filter is a list of relations with connectives between them; AND binds tighter than OR and both
join to the left. Blanks may stand around every token.
-/

set_option autoImplicit false

namespace LogQuery.Filter

inductive ParseCause where
  | unexpectedAfterRelation (c : Char)
  | noComparison
  | unexpectedOperand (c : Char)
  | noOperand
  | noColumnNumber
  | columnNumberTooLarge (digits : String)
  | unterminatedString
  | invalidPattern
  deriving DecidableEq, Repr

def ParseCause.message : ParseCause → String
  | unexpectedAfterRelation c => s!"unexpected {Text.quotedChar c}, expected AND, OR or end"
  | noComparison => "expected ==, !=, <> or ~="
  | unexpectedOperand c => s!"unexpected {Text.quotedChar c}, expected $N or \"string\""
  | noOperand => "unexpected end, expected $N or \"string\""
  | noColumnNumber => "expected column number after $"
  | columnNumberTooLarge digits =>
    s!"bad column number {Text.quoted digits}: number too large to fit in target type"
  | unterminatedString => "unterminated string"
  | invalidPattern => "invalid regular expression"

/-- Why a text is no filter, and how many characters stand before the place where that shows. -/
structure ParseError where
  position : Nat
  cause : ParseCause
  deriving DecidableEq, Repr

def ParseError.message (e : ParseError) : String :=
  s!"invalid filter expression at position {e.position}: {e.cause.message}"

structure Stop where
  rest : List Char
  cause : ParseCause
  deriving DecidableEq, Repr

/-- The characters up to the closing quote, and what is behind it. A backslash takes the next
character as it is. -/
def readString? : List Char → Option (List Char × List Char)
  | [] => none
  | '"' :: rest => some ([], rest)
  | ['\\'] => none
  | '\\' :: c :: rest => (readString? rest).map fun (value, rest) => (c :: value, rest)
  | c :: rest => (readString? rest).map fun (value, rest) => (c :: value, rest)

theorem readString?_shorter {text value rest : List Char}
    (h : readString? text = some (value, rest)) : rest.length < text.length := by
  fun_induction readString? text generalizing value rest <;> simp_all <;> grind

def parseColumn (text : List Char) : Except Stop (Filter × List Char) :=
  let digits := text.takeWhile Char.isDigit
  let rest := text.dropWhile Char.isDigit
  if digits.isEmpty then .error ⟨text, .noColumnNumber⟩
  else match Text.readWord? digits with
    | some n => .ok (column n, rest)
    | none => .error ⟨text, .columnNumberTooLarge (String.ofList digits)⟩

def parseOperand (text : List Char) : Except Stop (Filter × List Char) :=
  match Unicode.trimStart text with
  | '$' :: rest => parseColumn rest
  | '"' :: rest =>
    match readString? rest with
    | some (value, rest) => .ok (literal (String.ofList value), rest)
    | none => .error ⟨'"' :: rest, .unterminatedString⟩
  | c :: rest => .error ⟨c :: rest, .unexpectedOperand c⟩
  | [] => .error ⟨[], .noOperand⟩

def readComparison? : List Char → Option (Comparison × List Char)
  | '=' :: '=' :: rest => some (.equal, rest)
  | '!' :: '=' :: rest => some (.notEqual, rest)
  | '<' :: '>' :: rest => some (.notEqual, rest)
  | '~' :: '=' :: rest => some (.matching, rest)
  | _ => none

def readConnective? : List Char → Option (Connective × List Char)
  | '&' :: '&' :: rest => some (.and, rest)
  | 'a' :: 'n' :: 'd' :: rest => some (.and, rest)
  | 'A' :: 'N' :: 'D' :: rest => some (.and, rest)
  | '|' :: '|' :: rest => some (.or, rest)
  | 'o' :: 'r' :: rest => some (.or, rest)
  | 'O' :: 'R' :: rest => some (.or, rest)
  | _ => none

theorem trimStart_length_le (text : List Char) : (Unicode.trimStart text).length ≤ text.length :=
  (List.dropWhile_sublist _).length_le

theorem parseColumn_shorter {text rest : List Char} {operand : Filter}
    (h : parseColumn text = .ok (operand, rest)) : rest.length ≤ text.length := by
  have := (List.dropWhile_sublist (l := text) Char.isDigit).length_le
  unfold parseColumn at h
  grind

theorem parseOperand_shorter {text rest : List Char} {operand : Filter}
    (h : parseOperand text = .ok (operand, rest)) : rest.length < text.length := by
  have trimmed := trimStart_length_le text
  unfold parseOperand at h
  split at h
  · rename_i inner eq
    have := parseColumn_shorter h
    simp only [eq, List.length_cons] at trimmed; omega
  · rename_i inner eq
    split at h
    · rename_i value after read
      have := readString?_shorter read
      simp only [Except.ok.injEq, Prod.mk.injEq] at h
      obtain ⟨-, rfl⟩ := h
      simp only [eq, List.length_cons] at trimmed; omega
    · simp at h
  · simp at h
  · simp at h

theorem readComparison?_shorter {text rest : List Char} {op : Comparison}
    (h : readComparison? text = some (op, rest)) : rest.length < text.length := by
  unfold readComparison? at h
  grind

theorem readConnective?_shorter {text rest : List Char} {op : Connective}
    (h : readConnective? text = some (op, rest)) : rest.length < text.length := by
  unfold readConnective? at h
  grind

section

variable [Regex.Engine]

/-- The relation of two operands, with a literal pattern made ready; there is none if that literal
writes no pattern. -/
def relate? (op : Comparison) (left right : Filter) : Option Filter :=
  match op, right with
  | .matching, literal value =>
    (Regex.Engine.compile? value).map fun pattern => relation op left right (some pattern)
  | _, _ => some (relation op left right none)

def parseRelation (text : List Char) : Except Stop (Filter × List Char) := do
  let (left, rest) ← parseOperand text
  let rest := Unicode.trimStart rest
  match readComparison? rest with
  | none => .error ⟨rest, .noComparison⟩
  | some (op, rest) =>
    let rest := Unicode.trimStart rest
    let (right, after) ← parseOperand rest
    match relate? op left right with
    | some related => .ok (related, after)
    | none => .error ⟨rest, .invalidPattern⟩

theorem parseRelation_shorter {text rest : List Char} {related : Filter}
    (h : parseRelation text = .ok (related, rest)) : rest.length < text.length := by
  unfold parseRelation at h
  cases first : parseOperand text with
  | error e => simp [first, bind, Except.bind] at h
  | ok pair =>
    obtain ⟨left, middle⟩ := pair
    have := parseOperand_shorter first
    have trimmed := trimStart_length_le middle
    simp only [first, bind, Except.bind] at h
    split at h
    · simp at h
    · rename_i op after compared
      have := readComparison?_shorter compared
      have trimmedAfter := trimStart_length_le after
      split at h
      · simp at h
      · rename_i pair second
        have := parseOperand_shorter second
        split at h
        · simp only [Except.ok.injEq, Prod.mk.injEq] at h
          obtain ⟨-, rfl⟩ := h
          omega
        · simp at h

def parseFurther (text : List Char) : Except Stop (List (Connective × Filter)) :=
  match _connected : readConnective? (Unicode.trimStart text) with
  | none =>
    match Unicode.trimStart text with
    | [] => .ok []
    | c :: rest => .error ⟨c :: rest, .unexpectedAfterRelation c⟩
  | some (op, after) =>
    match _related : parseRelation after with
    | .error stop => .error stop
    | .ok (next, rest) => (parseFurther rest).map ((op, next) :: ·)
termination_by text.length
decreasing_by
  have := trimStart_length_le text
  have := readConnective?_shorter _connected
  have := parseRelation_shorter _related
  omega

end

def alternative (before : Option Filter) (last : Filter) : Filter :=
  match before with
  | some before => logical .or before last
  | none => last

/-- `group` is the run of relations joined by AND that is being read, `before` what was joined by OR
ahead of it. -/
def joinOnto (before : Option Filter) (group : Filter) : List (Connective × Filter) → Filter
  | [] => alternative before group
  | (.and, next) :: rest => joinOnto before (logical .and group next) rest
  | (.or, next) :: rest => joinOnto (some (alternative before group)) next rest

def join (first : Filter) (further : List (Connective × Filter)) : Filter :=
  joinOnto none first further

section

variable [Regex.Engine]

def parseAll (text : List Char) : Except Stop Filter := do
  let (first, rest) ← parseRelation text
  return join first (← parseFurther rest)

def parse (text : String) : Except ParseError Filter :=
  let chars := text.toList
  (parseAll chars).mapError fun stop => ⟨chars.length - stop.rest.length, stop.cause⟩

end

end LogQuery.Filter

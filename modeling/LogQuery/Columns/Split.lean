import LogQuery.Json.Reader
import LogQuery.Unicode.Basic

/-! The columns of a line: the members of a JSON object, or else what blanks separate.

A column may hold quoted and bracketed parts, within which blanks do not separate. Double quotes
open anywhere in a column, single quotes at its beginning only; the quotes are dropped, and a
backslash inside them makes the next character plain. Brackets of three kinds nest; they are kept,
and inside them quotes are plain characters. What is open at the end of the line ends there.
-/

set_option autoImplicit false

namespace LogQuery.Columns

def isSeparator (c : Char) : Bool := c == ' ' || c == '\t' || c == '\n' || c == '\r'

def closer? (c : Char) : Option Char :=
  match c with
  | '[' => some ']'
  | '(' => some ')'
  | '{' => some '}'
  | _ => none

/-- Where in a line the tokenizer stands. Texts of columns are kept last character first. -/
inductive Position where
  | between
  | bare (column : List Char)
  | quoted (quote : Char) (column : List Char)
  | escaped (quote : Char) (column : List Char)
  /-- inside brackets, with the closers that are awaited, innermost first -/
  | bracketed (closer : Char) (outer : List Char) (column : List Char)
  deriving DecidableEq, Repr

def Position.push (c : Char) (column : List Char) : Position :=
  match closer? c with
  | some closer => .bracketed closer [] (c :: column)
  | none => .bare (c :: column)

def Position.step (position : Position) (c : Char) : Position × Option (List Char) :=
  match position with
  | between =>
    if isSeparator c then (between, none)
    else if c == '"' || c == '\'' then (quoted c [], none)
    else (push c [], none)
  | bare column =>
    if isSeparator c then (between, some column)
    else if c == '"' then (quoted c column, none)
    else (push c column, none)
  | quoted quote column =>
    if c == '\\' then (escaped quote column, none)
    else if c == quote then (bare column, none)
    else (quoted quote (c :: column), none)
  | escaped quote column => (quoted quote (c :: column), none)
  | bracketed closer outer column =>
    match closer? c with
    | some inner => (bracketed inner (closer :: outer) (c :: column), none)
    | none =>
      if c == closer then
        match outer with
        | [] => (bare (c :: column), none)
        | next :: outer => (bracketed next outer (c :: column), none)
      else (bracketed closer outer (c :: column), none)

def Position.finish : Position → Option (List Char)
  | between => none
  | bare column | quoted _ column | escaped _ column | bracketed _ _ column => some column

def tokenizeFrom (done : List (List Char)) (position : Position) : List Char → List (List Char)
  | [] => ((position.finish.toList ++ done).map List.reverse).reverse
  | c :: rest =>
    let (next, ended) := position.step c
    tokenizeFrom (ended.toList ++ done) next rest

def tokenize (line : List Char) : List (List Char) := tokenizeFrom [] .between line

def looksLikeObject (line : String) : Bool :=
  let text := Unicode.trim line.toList
  2 ≤ text.length && text.head? == some '{' && text.getLast? == some '}'

def ofValue : Json.Value → String
  | .string s => s
  | value => value.text

def ofObject? (line : String) : Option (List String) :=
  match Json.Value.parse? (Unicode.trim line.toList) with
  | some (.object members) => some (members.map fun (_, value) => ofValue value)
  | _ => none

def ofPlain (line : String) : List String := (tokenize line.toList).map String.ofList

/-- The columns of a line. One that only looks like an object is plain text. -/
def ofLine (line : String) : List String :=
  if looksLikeObject line then (ofObject? line).getD (ofPlain line) else ofPlain line

end LogQuery.Columns

import LogQuery.Text.Basic

/-! The strings, blanks and line ends of TOML. -/

set_option autoImplicit false

namespace LogQuery.Toml

def isBlank (c : Char) : Bool := c == ' ' || c == '\t'

def skipBlanks (text : List Char) : List Char := text.dropWhile isBlank

def isPlain (c : Char) : Bool := c == '\t' || (0x20 ≤ c.toNat && c.toNat != 0x7F)

def skipLineEnd? (text : List Char) : Option (List Char) :=
  match text with
  | '\n' :: rest => some rest
  | '\r' :: '\n' :: rest => some rest
  | _ => none

def skipRemark (text : List Char) : List Char :=
  match text with
  | '#' :: rest => rest.dropWhile isPlain
  | _ => text

def endLine? (text : List Char) : Option (List Char) :=
  match skipRemark (skipBlanks text) with
  | [] => some []
  | rest => skipLineEnd? rest

def skipLines : (fuel : Nat) → List Char → List Char
  | 0, text => text
  | fuel + 1, text =>
    let text := skipRemark (skipBlanks text)
    match skipLineEnd? text with
    | some rest => skipLines fuel rest
    | none => text

def readCode? (count : Nat) (text : List Char) : Option (Char × List Char) :=
  let digits := text.take count
  if digits.length != count then none
  else match Text.readBase? 16 digits with
    | some code => if code.isValidChar then some (Char.ofNat code, text.drop count) else none
    | none => none

def readEscape? (text : List Char) : Option (Char × List Char) :=
  match text with
  | 'b' :: rest => some ('\x08', rest)
  | 't' :: rest => some ('\t', rest)
  | 'n' :: rest => some ('\n', rest)
  | 'f' :: rest => some ('\x0c', rest)
  | 'r' :: rest => some ('\r', rest)
  | '"' :: rest => some ('"', rest)
  | '\\' :: rest => some ('\\', rest)
  | 'u' :: rest => readCode? 4 rest
  | 'U' :: rest => readCode? 8 rest
  | _ => none

inductive Quote where
  | double
  | single
  deriving DecidableEq, Repr

def Quote.char : Quote → Char
  | double => '"'
  | single => '\''

def readShort? (quote : Quote) : (fuel : Nat) → (done : List Char) → List Char →
    Option (String × List Char)
  | 0, _, _ => none
  | fuel + 1, done, text =>
    match text with
    | [] => none
    | c :: rest =>
      if c == quote.char then some (String.ofList done.reverse, rest)
      else if c == '\\' && quote == .double then
        match readEscape? rest with
        | some (c, rest) => readShort? quote fuel (c :: done) rest
        | none => none
      else if isPlain c then readShort? quote fuel (c :: done) rest
      else none

def skipContinued? (text : List Char) : Option (List Char) :=
  (skipLineEnd? (skipBlanks text)).map fun rest => go rest.length rest
where
  go : (fuel : Nat) → List Char → List Char
    | 0, text => text
    | fuel + 1, text =>
      match skipLineEnd? (skipBlanks text) with
      | some rest => go fuel rest
      | none => skipBlanks text

/-- The rest of a string over several lines, after the characters of `done`, last first. Three
marks end it, with up to two that belong to it before them. -/
def readLong? (quote : Quote) : (fuel : Nat) → (done : List Char) → List Char →
    Option (String × List Char)
  | 0, _, _ => none
  | fuel + 1, done, text =>
    match text with
    | [] => none
    | c :: rest =>
      if c == quote.char then
        let marks := text.takeWhile (· == quote.char)
        let rest := text.dropWhile (· == quote.char)
        if marks.length < 3 then readLong? quote fuel (marks ++ done) rest
        else if marks.length ≤ 5 then
          some (String.ofList ((marks.drop 3 ++ done).reverse), rest)
        else none
      else if c == '\\' && quote == .double then
        match skipContinued? rest with
        | some rest => readLong? quote fuel done rest
        | none =>
          match readEscape? rest with
          | some (c, rest) => readLong? quote fuel (c :: done) rest
          | none => none
      else
        match skipLineEnd? text with
        | some rest => readLong? quote fuel ('\n' :: done) rest
        | none => if isPlain c then readLong? quote fuel (c :: done) rest else none

def readString? (quote : Quote) (text : List Char) : Option (String × List Char) :=
  match text with
  | a :: b :: rest =>
    if a == quote.char && b == quote.char then
      readLong? quote (rest.length + 1) [] ((skipLineEnd? rest).getD rest)
    else readShort? quote (text.length + 1) [] text
  | _ => readShort? quote (text.length + 1) [] text

def isBareKeyChar (c : Char) : Bool := c.isAlphanum || c == '_' || c == '-'

def readKeyPart? (text : List Char) : Option (String × List Char) :=
  match text with
  | '"' :: rest => readShort? .double (rest.length + 1) [] rest
  | '\'' :: rest => readShort? .single (rest.length + 1) [] rest
  | _ =>
    let part := text.takeWhile isBareKeyChar
    if part.isEmpty then none else some (String.ofList part, text.dropWhile isBareKeyChar)

/-- A key, whose parts have dots between them, after the parts of `done`, last first. Blanks
around the parts are passed over. -/
def readKey? : (fuel : Nat) → (done : List String) → List Char → Option (List String × List Char)
  | 0, _, _ => none
  | fuel + 1, done, text =>
    match readKeyPart? (skipBlanks text) with
    | none => none
    | some (part, rest) =>
      match skipBlanks rest with
      | '.' :: rest => readKey? fuel (part :: done) rest
      | rest => some ((part :: done).reverse, rest)

end LogQuery.Toml

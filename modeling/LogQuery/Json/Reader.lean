import LogQuery.Json.Number
import LogQuery.Text.Basic

/-! Reading JSON text. The whole text is one value with blanks around it, or is refused. -/

set_option autoImplicit false

namespace LogQuery.Json

def isSpace (c : Char) : Bool := c == ' ' || c == '\n' || c == '\t' || c == '\r'

def skipSpace (text : List Char) : List Char := text.dropWhile isSpace

def readUnit? (text : List Char) : Option (Nat × List Char) :=
  match text with
  | a :: b :: c :: d :: rest => (Text.readBase? 16 [a, b, c, d]).map (·, rest)
  | _ => none

def readEscapedCode? (text : List Char) : Option (Char × List Char) := do
  let (unit, rest) ← readUnit? text
  if 0xDC00 ≤ unit && unit ≤ 0xDFFF then none
  else if 0xD800 ≤ unit && unit ≤ 0xDBFF then
    match rest with
    | '\\' :: 'u' :: rest => do
      let (low, rest) ← readUnit? rest
      if 0xDC00 ≤ low && low ≤ 0xDFFF then
        some (Char.ofNat (0x10000 + (unit - 0xD800) * 0x400 + (low - 0xDC00)), rest)
      else none
    | _ => none
  else some (Char.ofNat unit, rest)

def readEscape? (text : List Char) : Option (Char × List Char) :=
  match text with
  | '"' :: rest => some ('"', rest)
  | '\\' :: rest => some ('\\', rest)
  | '/' :: rest => some ('/', rest)
  | 'b' :: rest => some ('\x08', rest)
  | 'f' :: rest => some ('\x0c', rest)
  | 'n' :: rest => some ('\n', rest)
  | 'r' :: rest => some ('\r', rest)
  | 't' :: rest => some ('\t', rest)
  | 'u' :: rest => readEscapedCode? rest
  | _ => none

def readString? : (fuel : Nat) → (done : List Char) → List Char → Option (String × List Char)
  | 0, _, _ => none
  | fuel + 1, done, text =>
    match text with
    | '"' :: rest => some (String.ofList done.reverse, rest)
    | '\\' :: rest =>
      match readEscape? rest with
      | some (c, rest) => readString? fuel (c :: done) rest
      | none => none
    | c :: rest => if c.toNat < 0x20 then none else readString? fuel (c :: done) rest
    | [] => none

def depthLimit : Nat := 128

mutual

/-- A value after blanks, `depth` levels above the limit of nesting. -/
def readValue? : (fuel depth : Nat) → List Char → Option (Value × List Char)
  | 0, _, _ => none
  | fuel + 1, depth, text =>
    match skipSpace text with
    | 'n' :: 'u' :: 'l' :: 'l' :: rest => some (.null, rest)
    | 't' :: 'r' :: 'u' :: 'e' :: rest => some (.bool true, rest)
    | 'f' :: 'a' :: 'l' :: 's' :: 'e' :: rest => some (.bool false, rest)
    | '"' :: rest => (readString? fuel [] rest).map fun (s, rest) => (.string s, rest)
    | '[' :: rest =>
      if depth ≤ 1 then none
      else match skipSpace rest with
        | ']' :: rest => some (.array [], rest)
        | rest => readItems? fuel (depth - 1) [] rest
    | '{' :: rest =>
      if depth ≤ 1 then none
      else match skipSpace rest with
        | '}' :: rest => some (.object [], rest)
        | rest => readMembers? fuel (depth - 1) [] rest
    | text => do
      let (numeral, rest) ← Numeral.read? text
      some (← numeral.value?, rest)

def readItems? : (fuel depth : Nat) → (done : List Value) → List Char → Option (Value × List Char)
  | 0, _, _, _ => none
  | fuel + 1, depth, done, text =>
    match readValue? fuel depth text with
    | none => none
    | some (item, rest) =>
      match skipSpace rest with
      | ',' :: rest => readItems? fuel depth (item :: done) rest
      | ']' :: rest => some (.array (item :: done).reverse, rest)
      | _ => none

def readMembers? : (fuel depth : Nat) → (done : List (String × Value)) → List Char →
    Option (Value × List Char)
  | 0, _, _, _ => none
  | fuel + 1, depth, done, text =>
    match skipSpace text with
    | '"' :: rest =>
      match readString? fuel [] rest with
      | none => none
      | some (key, rest) =>
        match skipSpace rest with
        | ':' :: rest =>
          match readValue? fuel depth rest with
          | none => none
          | some (value, rest) =>
            let members := putMember done key value
            match skipSpace rest with
            | ',' :: rest => readMembers? fuel depth members rest
            | '}' :: rest => some (.object members, rest)
            | _ => none
        | _ => none
    | _ => none

end

/-- The value that the text is, if it is one. Every step takes a character, so there is fuel. -/
def Value.parse? (text : List Char) : Option Value :=
  match readValue? (text.length + 1) depthLimit text with
  | some (value, rest) => if (skipSpace rest).isEmpty then some value else none
  | none => none

end LogQuery.Json

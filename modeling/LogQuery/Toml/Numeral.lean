import LogQuery.Time.Iso
import LogQuery.Toml.Value

/-! Numbers, truth values and times of TOML: the values that stand without marks around them. -/

set_option autoImplicit false

namespace LogQuery.Toml

def isGrouped (isDigit : Char → Bool) : List Char → Bool
  | [] => false
  | [c] => isDigit c
  | c :: '_' :: rest => isDigit c && isGrouped isDigit rest
  | c :: rest => isDigit c && isGrouped isDigit rest

def readGrouped? (base : Nat) (digits : List Char) : Option Nat :=
  if isGrouped (fun c => ((Text.hexDigit? c).filter (· < base)).isSome) digits then
    Text.readBase? base (digits.filter (· != '_'))
  else none

def readDecimal? (digits : List Char) : Option Nat :=
  if digits.length != 1 && digits.head? == some '0' then none else readGrouped? 10 digits

def readSign (text : List Char) : Bool × List Char :=
  match text with
  | '-' :: rest => (true, rest)
  | '+' :: rest => (false, rest)
  | _ => (false, text)

def readInteger? (text : List Char) : Option Int :=
  let value : Option Int := match text with
    | '0' :: 'x' :: digits => (readGrouped? 16 digits).map Int.ofNat
    | '0' :: 'o' :: digits => (readGrouped? 8 digits).map Int.ofNat
    | '0' :: 'b' :: digits => (readGrouped? 2 digits).map Int.ofNat
    | _ =>
      let (isNegative, digits) := readSign text
      (readDecimal? digits).map fun n => if isNegative then -(n : Int) else n
  value.filter fun n => -(Text.signedLimit : Int) ≤ n && n < Text.signedLimit

def isExponent (text : List Char) : Bool :=
  match text with
  | [] => true
  | e :: rest => (e == 'e' || e == 'E') && isGrouped Char.isDigit (readSign rest).2

def isFloat (text : List Char) : Bool :=
  let (_, text) := readSign text
  if text == "inf".toList || text == "nan".toList then true
  else
    let isPart (c : Char) : Bool := c.isDigit || c == '_'
    (readDecimal? (text.takeWhile isPart)).isSome &&
      match text.dropWhile isPart with
      | [] => false
      | '.' :: rest =>
        isGrouped Char.isDigit (rest.takeWhile isPart) && isExponent (rest.dropWhile isPart)
      | rest => isExponent rest

def skipDate? (text : List Char) : Option (List Char) := do
  let (year, rest) ← Time.readExactly 4 text
  let rest ← Time.readText ['-'] rest
  let (month, rest) ← Time.readExactly 2 rest
  let rest ← Time.readText ['-'] rest
  let (day, rest) ← Time.readExactly 2 rest
  if (Time.Date.mk year month day).isValid then some rest else none

def skipTime? (text : List Char) : Option (List Char) := do
  let (hour, rest) ← Time.readExactly 2 text
  let rest ← Time.readText [':'] rest
  let (minute, rest) ← Time.readExactly 2 rest
  let rest ← Time.readText [':'] rest
  let (second, rest) ← Time.readExactly 2 rest
  if hour < 24 && minute < 60 && second ≤ 60 then
    match rest with
    | '.' :: rest =>
      if (rest.takeWhile Char.isDigit).isEmpty then none else some (rest.dropWhile Char.isDigit)
    | _ => some rest
  else none

def isOffset (text : List Char) : Bool :=
  let isClock : Option Bool := do
    let sign :: rest := text | none
    let (hour, rest) ← Time.readExactly 2 rest
    let rest ← Time.readText [':'] rest
    let (minute, rest) ← Time.readExactly 2 rest
    return (sign == '+' || sign == '-') && hour < 24 && minute < 60 && rest.isEmpty
  text == [] || text == ['Z'] || text == ['z'] || isClock == some true

/-- A date, a time, or both; only with both there may be an offset. -/
def isDateTime (text : List Char) : Bool :=
  match skipDate? text with
  | none => skipTime? text == some []
  | some [] => true
  | some (mark :: rest) =>
    (mark == 'T' || mark == 't' || mark == ' ') &&
      match skipTime? rest with
      | some rest => isOffset rest
      | none => false

def Value.ofWord? (text : List Char) : Option Value :=
  if text == "true".toList then some (.boolean true)
  else if text == "false".toList then some (.boolean false)
  else match readInteger? text with
    | some n => some (.integer n)
    | none =>
      if isFloat text then some (.float (String.ofList text))
      else if isDateTime text then some (.dateTime (String.ofList text))
      else none

def isWordChar (c : Char) : Bool := c.isAlphanum || ['+', '-', '_', '.', ':'].contains c

/-- The characters of a value without marks, and what follows them. There may be a blank between a
date and a time. -/
def takeWord (text : List Char) : List Char × List Char :=
  let word := text.takeWhile isWordChar
  let rest := text.dropWhile isWordChar
  match rest with
  | ' ' :: c :: after =>
    if skipDate? word == some [] && c.isDigit then
      (word ++ ' ' :: (c :: after).takeWhile isWordChar, (c :: after).dropWhile isWordChar)
    else (word, rest)
  | _ => (word, rest)

end LogQuery.Toml

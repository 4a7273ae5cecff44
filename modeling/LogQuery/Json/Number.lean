import LogQuery.Json.Value

/-! Reading JSON numbers.

A whole number that fits 64 bits stays exact. Any other number becomes a double: as many leading
digits as fit 64 bits, times or divided by a power of ten, each step rounded to a double.
-/

set_option autoImplicit false

namespace LogQuery.Json

structure Numeral where
  negative : Bool
  whole : List Char
  fraction : Option (List Char)
  exponent : Option (Bool × List Char)
  deriving DecidableEq, Repr

def someDigits? (text : List Char) : Option (List Char × List Char) :=
  let digits := text.takeWhile Char.isDigit
  if digits.isEmpty then none else some (digits, text.dropWhile Char.isDigit)

def readFraction? (text : List Char) : Option (Option (List Char) × List Char) :=
  match text with
  | '.' :: rest => (someDigits? rest).map fun (digits, rest) => (some digits, rest)
  | _ => some (none, text)

def readExponent? (text : List Char) : Option (Option (Bool × List Char) × List Char) :=
  match text with
  | c :: rest =>
    if c == 'e' || c == 'E' then
      let (negative, rest) := match rest with
        | '+' :: rest => (false, rest)
        | '-' :: rest => (true, rest)
        | _ => (false, rest)
      (someDigits? rest).map fun (digits, rest) => (some (negative, digits), rest)
    else some (none, text)
  | [] => some (none, text)

def Numeral.read? (text : List Char) : Option (Numeral × List Char) := do
  let (negative, rest) := match text with
    | '-' :: rest => (true, rest)
    | _ => (false, text)
  let (whole, rest) ← someDigits? rest
  if whole.head? == some '0' && whole.length != 1 then none
  else do
    let (fraction, rest) ← readFraction? rest
    let (exponent, rest) ← readExponent? rest
    some (⟨negative, whole, fraction, exponent⟩, rest)

def takeFitting (value : Nat) : List Char → Nat × List Char
  | [] => (value, [])
  | c :: digits =>
    let next := value * 10 + (c.toNat - '0'.toNat)
    if next < Text.wordLimit then takeFitting next digits else (value, c :: digits)

def Numeral.significand (n : Numeral) : Nat × Int :=
  let (value, cut) := takeFitting 0 n.whole
  let fraction := n.fraction.getD []
  let (value, ignored) := takeFitting value fraction
  (value, (cut.length : Int) - ((fraction.length : Int) - ignored.length))

def largestPower : Nat := 308

def powerOfTen (exponent : Nat) : Float := Float.ofScientific 1 false exponent

/-- `value * 10 ^ exponent`, refused when it is infinite. Small powers are divided by in steps; a
64-bit number is zero after two of them. -/
def scaleTen? : (steps : Nat) → (value : Float) → (exponent : Int) → Option Float
  | steps, value, exponent =>
    if exponent.natAbs ≤ largestPower then
      if 0 ≤ exponent then
        let scaled := value * powerOfTen exponent.natAbs
        if scaled.isInf then none else some scaled
      else some (value / powerOfTen exponent.natAbs)
    else if value == 0 then some value
    else if 0 ≤ exponent then none
    else match steps with
      | 0 => some 0
      | steps + 1 => scaleTen? steps (value / powerOfTen largestPower) (exponent + largestPower)

def largestExponent : Nat := 2147483647

def Numeral.magnitude? (n : Numeral) : Option Float :=
  let (value, shift) := n.significand
  match n.exponent with
  | some (negative, digits) =>
    match Text.readDigits? digits with
    | some exponent =>
      if exponent ≤ largestExponent then
        let exponent : Int := if negative then -(exponent : Int) else exponent
        scaleTen? 4 (UInt64.ofNat value).toFloat (shift + exponent)
      else if value != 0 && !negative then none
      else some 0
    | none => none
  | none => scaleTen? 4 (UInt64.ofNat value).toFloat shift

/-- The value of the number, if it is not too large. Minus zero and whole numbers beyond 64 bits
are floats. -/
def Numeral.value? (n : Numeral) : Option Value :=
  let (whole, cut) := takeFitting 0 n.whole
  let isWhole := n.fraction.isNone && n.exponent.isNone && cut.isEmpty
  if isWhole && !n.negative then some (.integer whole)
  else if isWhole && whole != 0 && whole ≤ Text.signedLimit then some (.integer (-(whole : Int)))
  else n.magnitude?.map fun x => .float (if n.negative then -x else x)

end LogQuery.Json

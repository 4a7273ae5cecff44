import LogQuery.Decimal.Shortest
import LogQuery.Text.Basic

/-! JSON values and their text.

Text is compact: no blanks outside strings. The members of an object keep the order in which their
keys first came; a key that comes again gives its value to the member that is there.
-/

set_option autoImplicit false

namespace LogQuery.Json

inductive Value where
  | null
  | bool (value : Bool)
  | integer (value : Int)
  | float (value : Float)
  | string (value : String)
  | array (items : List Value)
  | object (members : List (String × Value))

/-- A member put in the place of one with the same key, or behind all others. -/
def putMember (members : List (String × Value)) (key : String) (value : Value) :
    List (String × Value) :=
  if members.any fun member => member.1 == key then
    members.map fun member => if member.1 == key then (key, value) else member
  else members ++ [(key, value)]

/-- Exponents of the first digit for which a number is written without an exponent. -/
def plainExponent (exponent : Int) : Bool := -5 ≤ exponent && exponent ≤ 15

def decimalText (d : Decimal.Scientific) : String :=
  let digits := (toString d.digits).toList
  let count : Int := digits.length
  let exponent := d.exponent + count - 1
  if plainExponent exponent then
    if count ≤ exponent + 1 then
      String.ofList (digits ++ List.replicate (exponent + 1 - count).toNat '0') ++ ".0"
    else if 0 ≤ exponent then
      String.ofList (digits.take (exponent + 1).toNat ++ '.' :: digits.drop (exponent + 1).toNat)
    else "0." ++ String.ofList (List.replicate (-exponent - 1).toNat '0' ++ digits)
  else
    let fraction := if count == 1 then [] else '.' :: digits.drop 1
    let sign := if exponent < 0 then "-" else "+"
    String.ofList (digits.take 1 ++ fraction) ++ "e" ++ sign ++ toString exponent.natAbs

def floatText (value : Float) : String :=
  let bits := value.toBits
  let sign := if bits.toNat ≥ Text.signedLimit then "-" else ""
  let magnitude := Decimal.Magnitude.ofBits bits
  if magnitude.mantissa == 0 then sign ++ "0.0"
  else sign ++ decimalText (Decimal.shortest magnitude)

def escapeChar (c : Char) : String :=
  match c with
  | '"' => "\\\""
  | '\\' => "\\\\"
  | '\n' => "\\n"
  | '\r' => "\\r"
  | '\t' => "\\t"
  | '\x08' => "\\b"
  | '\x0c' => "\\f"
  | _ =>
    if c.toNat < 0x20 then "\\u" ++ Text.padLeft 4 '0' (String.ofList (Nat.toDigits 16 c.toNat))
    else c.toString

def stringText (s : String) : String := "\"" ++ String.join (s.toList.map escapeChar) ++ "\""

mutual

def Value.text : Value → String
  | .null => "null"
  | .bool true => "true"
  | .bool false => "false"
  | .integer n => toString n
  | .float x => floatText x
  | .string s => stringText s
  | .array items => "[" ++ String.intercalate "," (itemTexts items) ++ "]"
  | .object members => "\x7b" ++ String.intercalate "," (memberTexts members) ++ "\x7d"

def itemTexts : List Value → List String
  | [] => []
  | item :: items => item.text :: itemTexts items

def memberTexts : List (String × Value) → List String
  | [] => []
  | (key, value) :: members => (stringText key ++ ":" ++ value.text) :: memberTexts members

end

end LogQuery.Json

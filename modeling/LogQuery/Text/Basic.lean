/-! Texts cut at a separating character, and numbers in texts: numerals of fixed least width, as
dates and tables write them, counts in short, and the reading of unsigned 64-bit numbers. -/

set_option autoImplicit false

namespace LogQuery.Text

/-- The parts of a text between the separators; one part more than there are separators. -/
def splitAt (separator : Char) (text : List Char) : List (List Char) :=
  text.foldr (fun c parts =>
    if c == separator then [] :: parts
    else match parts with
      | part :: parts => (c :: part) :: parts
      | [] => [[c]]) [[]]

def splitAtFirst? (separator : Char) (text : List Char) : Option (List Char × List Char) :=
  match text.dropWhile (· != separator) with
  | [] => none
  | _ :: rest => some (text.takeWhile (· != separator), rest)

def padLeft (width : Nat) (fill : Char) (text : String) : String :=
  String.ofList (List.replicate (width - text.length) fill) ++ text

def zeroPadded (width n : Nat) : String := padLeft width '0' (toString n)

/-- `value` with the first of the suffixes at which it is at most 1000, each next one standing for a
thousand of the one before. -/
def abbreviatedBy : List String → Nat → String
  | [], value => toString value
  | [suffix], value => s!"{value}{suffix}"
  | suffix :: larger, value =>
    if value > 1000 then abbreviatedBy larger (value / 1000) else s!"{value}{suffix}"

def abbreviated (value : Nat) : String := abbreviatedBy ["", "k", "M", "G", "T", "P", "E"] value

def digitValue? (c : Char) : Option Nat :=
  if c.isDigit then some (c.toNat - '0'.toNat) else none

def readDigits? (digits : List Char) : Option Nat :=
  match digits with
  | [] => none
  | _ => digits.foldlM (fun value c => (digitValue? c).map (value * 10 + ·)) 0

def hexDigit? (c : Char) : Option Nat :=
  if 'a' ≤ c && c ≤ 'f' then some (c.toNat - 'a'.toNat + 10)
  else if 'A' ≤ c && c ≤ 'F' then some (c.toNat - 'A'.toNat + 10)
  else digitValue? c

def readBase? (base : Nat) (digits : List Char) : Option Nat :=
  match digits with
  | [] => none
  | _ => digits.foldlM (fun value c => ((hexDigit? c).filter (· < base)).map (value * base + ·)) 0

def wordLimit : Nat := 18446744073709551616

def signedLimit : Nat := 9223372036854775808

/-- An unsigned 64-bit number: an optional plus sign, then ASCII digits. -/
def readWord? (text : List Char) : Option Nat :=
  let digits := match text with
    | '+' :: rest => rest
    | _ => text
  (readDigits? digits).filter (· < wordLimit)

end LogQuery.Text

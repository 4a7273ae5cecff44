import LogQuery.Regex.Syntax
import LogQuery.Unicode.CaseFolding
import LogQuery.Unicode.Script

/-! Flags of regular expressions, and the sets of characters that classes mean under them.

Without the Unicode flag classes are classes of bytes. Texts are sequences of characters, so then
only sets within ASCII are admitted.
-/

set_option autoImplicit false

namespace LogQuery.Regex

open Unicode (CharSet)

structure Flags where
  ignoreCase : Bool := false
  multiLine : Bool := false
  dotAll : Bool := false
  /-- repetitions are lazy unless marked; no match depends on it -/
  swapGreed : Bool := false
  unicode : Bool := true
  crlf : Bool := false
  extended : Bool := false
  deriving DecidableEq, Repr

namespace Flags

def foldCase (flags : Flags) (set : CharSet) : CharSet :=
  if !flags.ignoreCase then set
  else if flags.unicode then Unicode.ignoreCase set
  else
    let upper := set.inter (CharSet.ofRanges [(0x41, 0x5A)])
    let lower := set.inter (CharSet.ofRanges [(0x61, 0x7A)])
    set.union <| CharSet.ofRanges <|
      (upper.ranges.toList.map fun (first, last) => (first + 32, last + 32))
        ++ (lower.ranges.toList.map fun (first, last) => (first - 32, last - 32))

/-- Everything outside the set: characters, or bytes without the Unicode flag. -/
def complement (flags : Flags) (set : CharSet) : CharSet :=
  if flags.unicode then set.negate else set.negate.inter (CharSet.ofRanges [(0, 0xFF)])

def complementIf (flags : Flags) (negated : Bool) (set : CharSet) : CharSet :=
  if negated then flags.complement set else set

def charsOf? (flags : Flags) (set : CharSet) : Option Regex :=
  if flags.unicode || set.ranges.all fun (_, last) => last < 0x80 then some (.chars set) else none

def literal (flags : Flags) (c : Char) : Regex :=
  if flags.ignoreCase && (flags.unicode || c.toNat < 0x80) then
    .chars (flags.foldCase (CharSet.single c))
  else .chars (CharSet.single c)

def dot? (flags : Flags) : Option Regex :=
  let excluded := if flags.dotAll then [] else if flags.crlf then [(0xA, 0xA), (0xD, 0xD)] else [(0xA, 0xA)]
  flags.charsOf? (flags.complement (CharSet.ofRanges excluded))

def caret (flags : Flags) : Regex :=
  .look (if !flags.multiLine then .textStart else if flags.crlf then .lineStartCrlf else .lineStart)

def dollar (flags : Flags) : Regex :=
  .look (if !flags.multiLine then .textEnd else if flags.crlf then .lineEndCrlf else .lineEnd)

def perlClass? (flags : Flags) (c : Char) : Option CharSet :=
  let choose (unicode : CharSet) (ascii : List (Nat × Nat)) : CharSet :=
    if flags.unicode then unicode else CharSet.ofRanges ascii
  let digits := fun (_ : Unit) => choose Unicode.decimalDigitChars [(0x30, 0x39)]
  let blanks := fun (_ : Unit) => choose Unicode.blankChars [(0x9, 0xD), (0x20, 0x20)]
  let words := fun (_ : Unit) =>
    choose Unicode.wordChars [(0x30, 0x39), (0x41, 0x5A), (0x5F, 0x5F), (0x61, 0x7A)]
  match c with
  | 'd' => some (digits ())
  | 'D' => some (flags.complement (digits ()))
  | 's' => some (blanks ())
  | 'S' => some (flags.complement (blanks ()))
  | 'w' => some (words ())
  | 'W' => some (flags.complement (words ()))
  | _ => none

end Flags

def asciiClass? (name : String) : Option (List (Nat × Nat)) :=
  match name with
  | "alnum" => some [(0x30, 0x39), (0x41, 0x5A), (0x61, 0x7A)]
  | "alpha" => some [(0x41, 0x5A), (0x61, 0x7A)]
  | "ascii" => some [(0x0, 0x7F)]
  | "blank" => some [(0x9, 0x9), (0x20, 0x20)]
  | "cntrl" => some [(0x0, 0x1F), (0x7F, 0x7F)]
  | "digit" => some [(0x30, 0x39)]
  | "graph" => some [(0x21, 0x7E)]
  | "lower" => some [(0x61, 0x7A)]
  | "print" => some [(0x20, 0x7E)]
  | "punct" => some [(0x21, 0x2F), (0x3A, 0x40), (0x5B, 0x60), (0x7B, 0x7E)]
  | "space" => some [(0x9, 0xD), (0x20, 0x20)]
  | "upper" => some [(0x41, 0x5A)]
  | "word" => some [(0x30, 0x39), (0x41, 0x5A), (0x5F, 0x5F), (0x61, 0x7A)]
  | "xdigit" => some [(0x30, 0x39), (0x41, 0x46), (0x61, 0x66)]
  | _ => none

def propertyName (name : String) : String :=
  let loose := Unicode.looseName name
  match loose.toList with
  | 'i' :: 's' :: rest => if loose == "isc" then loose else String.ofList rest
  | _ => loose

def categoryChars? (name : String) : Option CharSet :=
  match name with
  | "any" => some CharSet.all
  | "assigned" => some (Unicode.charsOfCategories ["Cn"]).negate
  | "ascii" => some (CharSet.ofRanges [(0, 0x7F)])
  | _ => (Unicode.categoriesNamed? name).map Unicode.charsOfCategories

/-- The characters that a name alone means: of a property, else of a category, else of a script.
Three names are short for both a property and a category, and mean the category. -/
def namedChars? (written : String) : Option CharSet :=
  let name := propertyName written
  let property :=
    if ["cf", "sc", "lc"].contains name then none else Unicode.charsWithProperty? name
  property.or <| (categoryChars? name).or <| (Unicode.scriptNamed? name).map Unicode.charsOfScript

def valuedChars? (property value : String) : Option CharSet :=
  let value := propertyName value
  match propertyName property with
  | "gc" | "generalcategory" => categoryChars? value
  | "sc" | "script" => (Unicode.scriptNamed? value).map Unicode.charsOfScript
  | "scx" | "scriptextensions" => (Unicode.scriptNamed? value).map Unicode.charsUsedInScript
  | _ => none

def splitOnce? (separator text : String) : Option (String × String) :=
  match text.splitOn separator with
  | front :: rest@(_ :: _) => some (front, separator.intercalate rest)
  | _ => none

def bracedChars? (name : String) : Option (CharSet × Bool) :=
  match splitOnce? "!=" name with
  | some (property, value) => (valuedChars? property value).map (·, true)
  | none =>
    match (splitOnce? ":" name).or (splitOnce? "=" name) with
    | some (property, value) => (valuedChars? property value).map (·, false)
    | none => (namedChars? name).map (·, false)

end LogQuery.Regex

import LogQuery.Text.Basic

/-! Names of log files that are rotated: `syslog`, `kern.log`, `syslog.1`, `kern.log.2.gz`. -/

set_option autoImplicit false

namespace LogQuery

inductive Packing where
  | plain
  | gzip
  | bzip2
  deriving DecidableEq, Repr

structure LogFileName where
  name : String
  /-- how often the file was rotated; none for the live one -/
  rotation : Option Nat := none
  packing : Packing := .plain
  deriving DecidableEq, Repr

namespace LogFileName

def isNameChar (c : Char) : Bool := c.isAlphanum || c == '_' || c == '-'

def packing? (text : List Char) : Option Packing :=
  match text with
  | [] => some .plain
  | ['.', 'g', 'z'] => some .gzip
  | ['.', 'b', 'z', '2'] => some .bzip2
  | _ => none

def readRotation? (text : List Char) : Option (Option Nat × Packing) :=
  match text with
  | [] => some (none, .plain)
  | '.' :: rest => do
    let n ← Text.readWord? (← some (rest.takeWhile Char.isDigit))
    return (some n, ← packing? (rest.dropWhile Char.isDigit))
  | _ => none

def dropLogSuffix (text : List Char) : List Char :=
  match text with
  | '.' :: 'l' :: 'o' :: 'g' :: rest => rest
  | _ => text

def parse? (text : String) : Option LogFileName := do
  let name := text.toList.takeWhile isNameChar
  if name.isEmpty then none
  let (rotation, packing) ← readRotation? (dropLogSuffix (text.toList.dropWhile isNameChar))
  return ⟨String.ofList name, rotation, packing⟩

end LogFileName

end LogQuery

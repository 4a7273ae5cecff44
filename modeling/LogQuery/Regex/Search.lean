import LogQuery.Regex.Parser
import LogQuery.Regex.Program

/-! Searching a text for a match of a regular expression.

All places in the program that a match begun anywhere so far may have come to are followed at once,
one character at a time.
-/

set_option autoImplicit false

namespace LogQuery

namespace Regex

def isWordChar (unicode : Bool) (c : Option Char) : Bool :=
  match c with
  | some c =>
    if unicode then Unicode.wordChars.contains c else c.isAlphanum || c == '_'
  | none => false

def Look.holds (test : Look) (before after : Option Char) : Bool :=
  match test with
  | textStart => before.isNone
  | textEnd => after.isNone
  | lineStart => before.isNone || before == some '\n'
  | lineEnd => after.isNone || after == some '\n'
  | lineStartCrlf =>
    before.isNone || before == some '\n' || (before == some '\r' && after != some '\n')
  | lineEndCrlf =>
    after.isNone || after == some '\r' || (after == some '\n' && before != some '\r')
  | wordBoundary unicode => isWordChar unicode before != isWordChar unicode after
  | notWordBoundary unicode => isWordChar unicode before == isWordChar unicode after
  | wordStart unicode => !isWordChar unicode before && isWordChar unicode after
  | wordEnd unicode => isWordChar unicode before && !isWordChar unicode after
  | wordStartHalf unicode => !isWordChar unicode before
  | wordEndHalf unicode => !isWordChar unicode after

/-- The instructions for a character that can be come to from the places of `stack` without taking
one, and whether a match is among what can be come to. No place is entered twice. -/
def follow (program : Program) (before after : Option Char) :
    (fuel : Nat) → (stack : List Nat) → (seen : Array Bool) → (found : List Instruction) →
    Bool × List Instruction
  | 0, _, _, found => (false, found)
  | _, [], _, found => (false, found)
  | fuel + 1, place :: stack, seen, found =>
    if seen.getD place true then follow program before after fuel stack seen found
    else
      let seen := seen.setIfInBounds place true
      match program[place]? with
      | some (.chars set next) =>
        follow program before after fuel stack seen (.chars set next :: found)
      | some (.split left right) =>
        follow program before after fuel (left :: right :: stack) seen found
      | some (.look test next) =>
        follow program before after fuel (if test.holds before after then next :: stack else stack)
          seen found
      | some .matched => (true, found)
      | none => follow program before after fuel stack seen found

def Instruction.take? (c : Char) : Instruction → Option Nat
  | chars set next => if set.contains c then some next else none
  | _ => none

/-- Does a match end in the text, begun at one of the places or later? -/
def searchFrom (program : Program) (start : Nat) (before : Option Char) (places : List Nat)
    (text : List Char) : Bool :=
  let stack := start :: places
  let seen := Array.replicate program.size false
  let (matched, found) :=
    follow program before text.head? (2 * program.size + stack.length) stack seen []
  match text with
  | [] => matched
  | c :: rest =>
    matched || searchFrom program start (some c) (found.filterMap (·.take? c)) rest

end Regex

structure Pattern where
  regex : Regex
  start : Nat
  program : Regex.Program
  deriving Repr

namespace Pattern

def compile? (text : String) : Option Pattern :=
  (Regex.parse? text).map fun regex =>
    let (start, program) := regex.program
    ⟨regex, start, program⟩

def isMatch (pattern : Pattern) (text : String) : Bool :=
  Regex.searchFrom pattern.program pattern.start none [] text.toList

end Pattern

/-- A way to make patterns ready and to search for them. What is said of filters holds for any. -/
class Regex.Engine where
  compile? : String → Option Pattern
  isMatch : Pattern → String → Bool

instance : Regex.Engine where
  compile? := Pattern.compile?
  isMatch := Pattern.isMatch

end LogQuery

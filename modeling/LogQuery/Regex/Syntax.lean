import LogQuery.Unicode.Property

/-! Regular expressions over characters.

Only whether a text holds a match is ever asked, so groups are not numbered and lazy repetition is
the same as greedy. Case, classes and anchors are settled when an expression is read: what is left
are sets of characters and tests of the neighbours of a place.
-/

set_option autoImplicit false

namespace LogQuery

inductive Regex.Look where
  | textStart
  | textEnd
  | lineStart
  | lineEnd
  | lineStartCrlf
  | lineEndCrlf
  | wordBoundary (unicode : Bool)
  | notWordBoundary (unicode : Bool)
  | wordStart (unicode : Bool)
  | wordEnd (unicode : Bool)
  | wordStartHalf (unicode : Bool)
  | wordEndHalf (unicode : Bool)
  deriving DecidableEq, Repr

inductive Regex where
  | empty
  | chars (set : Unicode.CharSet)
  | look (test : Regex.Look)
  | seq (first second : Regex)
  | either (left right : Regex)
  | times (least : Nat) (most : Option Nat) (body : Regex)
  deriving Repr

namespace Regex

def sequence : List Regex → Regex
  | [] => empty
  | [r] => r
  | r :: rs => seq r (sequence rs)

def anyOf : List Regex → Regex
  | [] => chars Unicode.CharSet.empty
  | [r] => r
  | r :: rs => either r (anyOf rs)

/-- Bytes that one set of characters takes in a program. A set beyond ASCII is spelled out in the
bytes of its characters, which takes about as much for each of its ranges. -/
def setCost (set : Unicode.CharSet) : Nat :=
  let ascii := set.ranges.all fun (_, last) => last < 0x80
  if ascii then (if set.ranges.size ≤ 1 then 32 else 32 + 8 * set.ranges.size)
  else 32 + 60 * set.ranges.size

/-- About as many bytes as the program of an expression takes, repetitions being spelled out. -/
def cost : Regex → Nat
  | empty => 32
  | chars set => setCost set
  | look _ => 32
  | seq first second => first.cost + second.cost
  | either left right => left.cost + right.cost + 40
  | times least most body =>
    match most with
    | none => max least 1 * body.cost + 40
    | some most => most * body.cost + (most - least) * 40 + 32

def costLimit : Nat := 10 * 1048576

end Regex

end LogQuery

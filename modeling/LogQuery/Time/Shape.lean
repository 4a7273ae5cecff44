import LogQuery.Unicode.Basic

/-! Shapes that the beginning of a line may have.

A shape is matched from the first character on. Where it can match in several ways the ways are
ordered, and the first one counts: an optional part is taken rather than left, a repetition is as
long as it can be.
-/

set_option autoImplicit false

namespace LogQuery.Time

inductive Shape where
  | nothing
  | one (test : Char → Bool)
  | seq (first second : Shape)
  | either (left right : Shape)

namespace Shape

/-- What can be left of the text after the shape, in order of preference. -/
def rests : Shape → List Char → List (List Char)
  | nothing, text => [text]
  | one _, [] => []
  | one test, c :: text => if test c then [text] else []
  | seq first second, text => (first.rests text).flatMap second.rests
  | either left right, text => left.rests text ++ right.rests text

def char (c : Char) : Shape := one (· == c)

def anyOf (chars : String) : Shape := one (chars.toList.contains ·)

def digit : Shape := one Unicode.isDigit

def upperLetter : Shape := one fun c => 'A' ≤ c && c ≤ 'Z'

def sequence : List Shape → Shape
  | [] => nothing
  | [shape] => shape
  | shape :: shapes => seq shape (sequence shapes)

def text (value : String) : Shape := sequence (value.toList.map char)

def anyWord : List String → Shape
  | [] => one fun _ => false
  | [word] => text word
  | word :: words => either (text word) (anyWord words)

def optional (shape : Shape) : Shape := either shape nothing

def upTo : (most : Nat) → Shape → Shape
  | 0, _ => nothing
  | most + 1, shape => optional (seq shape (upTo most shape))

def times : Nat → Shape → Shape
  | 0, _ => nothing
  | n + 1, shape => seq shape (times n shape)

def between (least most : Nat) (shape : Shape) : Shape :=
  seq (times least shape) (upTo (most - least) shape)

instance : Append Shape := ⟨seq⟩

/-- The text that `body` takes after `lead`, in the preferred way, if the line begins with both. -/
def capture? (lead body : Shape) (line : List Char) : Option (List Char) :=
  ((lead.rests line).flatMap fun start =>
    (body.rests start).map fun rest => start.take (start.length - rest.length)).head?

end Shape

end LogQuery.Time

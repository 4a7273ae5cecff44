import LogQuery.Regex.Syntax

/-! Regular expressions as programs of numbered instructions. -/

set_option autoImplicit false

namespace LogQuery.Regex

inductive Instruction where
  | chars (set : Unicode.CharSet) (next : Nat)
  | split (left right : Nat)
  | look (test : Look) (next : Nat)
  | matched
  deriving Repr

abbrev Program := Array Instruction

abbrev Assembled := Nat × Program

def iterate (step : Assembled → Assembled) : (count : Nat) → Assembled → Assembled
  | 0, state => state
  | count + 1, state => iterate step count (step state)

/-- The instructions of the expression put in front of those that `after` gives. -/
def assemble : Regex → (after : Assembled) → Assembled
  | empty, after => after
  | chars set, (next, program) => (program.size, program.push (.chars set next))
  | look test, (next, program) => (program.size, program.push (.look test next))
  | seq first second, after => assemble first (assemble second after)
  | either left right, (next, program) =>
    let (leftStart, program) := assemble left (next, program)
    let (rightStart, program) := assemble right (next, program)
    (program.size, program.push (.split leftStart rightStart))
  | times least most body, (next, program) =>
    let optional :=
      match most with
      | none =>
        -- a loop holds its place until its body is there to be entered
        let loop := program.size
        let (start, program) := assemble body (loop, program.push .matched)
        (loop, program.setIfInBounds loop (.split start next))
      | some most =>
        iterate (fun after =>
          let (start, program) := assemble body after
          (program.size, program.push (.split start next))) (most - least) (next, program)
    iterate (assemble body) least optional

def program (regex : Regex) : Assembled := assemble regex (0, #[.matched])

end LogQuery.Regex

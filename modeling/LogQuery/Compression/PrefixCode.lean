import LogQuery.Compression.Bits

/-! Codes of which none begins another, given by the lengths of their words.

Among words of one length the order is that of the symbols, and shorter words come first.
-/

set_option autoImplicit false

namespace LogQuery.Compression

inductive PrefixCode where
  | missing
  | symbol (value : Nat)
  | branch (zero one : PrefixCode)
  deriving DecidableEq, Repr

namespace PrefixCode

def read : PrefixCode → Bits → Except Fault (Nat × Bits)
  | missing, _ => .error .corrupt
  | symbol value, bits => .ok (value, bits)
  | branch zero one, bits =>
    match bits.next with
    | .ok (true, bits) => one.read bits
    | .ok (false, bits) => zero.read bits
    | .error fault => .error fault

def insert (value : Nat) : List Bool → PrefixCode → PrefixCode
  | [], _ => symbol value
  | bit :: word, code =>
    let (zero, one) := match code with
      | branch zero one => (zero, one)
      | _ => (missing, missing)
    if bit then branch zero (insert value word one) else branch (insert value word zero) one

def wordOf (length n : Nat) : List Bool :=
  (List.range length).map fun i => n.testBit (length - 1 - i)

def symbolsOfLength (lengths : List Nat) (length : Nat) : List Nat :=
  (List.range lengths.length).filter fun value => lengths[value]? == some length

def insertFrom (lengths : List Nat) :
    (remaining : Nat) → (length first : Nat) → PrefixCode → PrefixCode
  | 0, _, _, code => code
  | remaining + 1, length, first, code =>
    let values := symbolsOfLength lengths length
    let code := (values.zipIdx first).foldl
      (fun code (value, n) => insert value (wordOf length n) code) code
    insertFrom lengths remaining (length + 1) ((first + values.length) * 2) code

/-- The code in which each symbol's word has the length given for it; length 0 stands for no
word. -/
def ofLengths (lengths : List Nat) : PrefixCode :=
  insertFrom lengths (lengths.foldl max 0) 1 0 missing

def wordCount (bits : Nat) : Nat := Nat.pow 2 bits

/-- How much of the room for words of up to `longest` bits the lengths take; all of it is
`wordCount longest`. -/
def room (longest : Nat) (lengths : List Nat) : Nat :=
  (lengths.filter (0 < ·)).foldl (fun room length => room + wordCount (longest - length)) 0

end PrefixCode

end LogQuery.Compression

/-! What the two compressed formats have in common: bits drawn one by one from a sequence of bytes,
and checksums of 32 bits.

A checksum is the remainder of the data, taken as a polynomial over two elements. In the reflected
way of writing the lowest bit of a byte comes first, and the remainder shifts to the right; in the
other the highest comes first and it shifts to the left.
-/

set_option autoImplicit false

namespace LogQuery.Compression

inductive Fault where
  | truncated
  | corrupt
  deriving DecidableEq, Repr

inductive BitOrder where
  | lowFirst
  | highFirst
  deriving DecidableEq, Repr

def BitOrder.ofByte (order : BitOrder) (byte : UInt8) : List Bool :=
  let bits := (List.range 8).map byte.toNat.testBit
  match order with
  | .lowFirst => bits
  | .highFirst => bits.reverse

/-- The number that bits make: the first drawn counts least where low bits come first. -/
def BitOrder.number (order : BitOrder) (bits : List Bool) : Nat :=
  match order with
  | .lowFirst => bits.foldr (fun bit n => 2 * n + bit.toNat) 0
  | .highFirst => bits.foldl (fun n bit => 2 * n + bit.toNat) 0

structure Bits where
  order : BitOrder
  /-- what is left of a byte that is drawn from already -/
  pending : List Bool := []
  bytes : List UInt8
  deriving Repr

namespace Bits

def size (bits : Bits) : Nat := bits.pending.length + 8 * bits.bytes.length

def next (bits : Bits) : Except Fault (Bool × Bits) :=
  match bits.pending, bits.bytes with
  | bit :: pending, _ => .ok (bit, { bits with pending })
  | [], byte :: bytes =>
    match bits.order.ofByte byte with
    | bit :: pending => .ok (bit, { bits with pending, bytes })
    | [] => .error .truncated
  | [], [] => .error .truncated

def drawOnto (drawn : List Bool) : (count : Nat) → Bits → Except Fault (List Bool × Bits)
  | 0, bits => .ok (drawn.reverse, bits)
  | count + 1, bits => do
    let (bit, bits) ← bits.next
    drawOnto (bit :: drawn) count bits

def number (count : Nat) (bits : Bits) : Except Fault (Nat × Bits) := do
  let (drawn, rest) ← drawOnto [] count bits
  return (bits.order.number drawn, rest)

def alignToByte (bits : Bits) : Bits := { bits with pending := [] }

end Bits

namespace Checksum

def shiftReflected (rest : UInt32) : UInt32 :=
  if rest &&& 1 == 1 then (rest >>> 1) ^^^ 0xEDB88320 else rest >>> 1

def shiftForward (rest : UInt32) : UInt32 :=
  if rest &&& 0x80000000 == 0 then rest <<< 1 else (rest <<< 1) ^^^ 0x04C11DB7

def reflected (bytes : Array UInt8) : UInt32 :=
  let add (rest : UInt32) (byte : UInt8) : UInt32 :=
    Nat.repeat shiftReflected 8 (rest ^^^ byte.toUInt32)
  bytes.foldl add 0xFFFFFFFF ^^^ 0xFFFFFFFF

def forward (bytes : Array UInt8) : UInt32 :=
  let add (rest : UInt32) (byte : UInt8) : UInt32 :=
    Nat.repeat shiftForward 8 (rest ^^^ (byte.toUInt32 <<< 24))
  bytes.foldl add 0xFFFFFFFF ^^^ 0xFFFFFFFF

end Checksum

end LogQuery.Compression

import LogQuery.ByteStream.Basic
import LogQuery.Compression.Bits
import LogQuery.Compression.PrefixCode

/-! Bzip2 data: blocks of which each is a sorted rearrangement of its bytes.

A block is read in steps that undo those of writing it: prefix codes, runs and recently used
bytes, the rearrangement, and runs of equal bytes.
-/

set_option autoImplicit false

namespace LogQuery.Compression.Bzip2

def badHeader : Failure := ⟨.invalidData, "not bzip2 data"⟩
def badBlock : Failure := ⟨.other, "bad bzip2 block"⟩

def blockMark : Nat := 0x314159265359

def endMark : Nat := 0x177245385090

def moveToFront {α : Type} (place : Nat) (xs : List α) : Option (α × List α) :=
  match xs.splitAt place with
  | (before, x :: after) => some (x, x :: before ++ after)
  | _ => none

def readUnary : (limit : Nat) → (count : Nat) → Bits → Except Fault (Nat × Bits)
  | limit, count, bits => do
    let (bit, bits) ← bits.next
    if !bit then return (count, bits)
    match limit with
    | 0 => throw .corrupt
    | limit + 1 => readUnary limit (count + 1) bits

/-- The bytes that occur in a block: a map of the ranges of 16 bytes that do, and one for each. -/
def readAlphabet (bits : Bits) : Except Fault (List UInt8 × Bits) := do
  let (ranges, bits) ← Bits.drawOnto [] 16 bits
  let rec readRanges : List (Bool × Nat) → List UInt8 → Bits → Except Fault (List UInt8 × Bits)
    | [], bytes, bits => .ok (bytes, bits)
    | (false, _) :: ranges, bytes, bits => readRanges ranges bytes bits
    | (true, range) :: ranges, bytes, bits => do
      let (used, bits) ← Bits.drawOnto [] 16 bits
      let found := used.zipIdx.filterMap fun (isUsed, i) =>
        if isUsed then some (UInt8.ofNat (16 * range + i)) else none
      readRanges ranges (bytes ++ found) bits
  readRanges ranges.zipIdx [] bits

def readSelectors : (count : Nat) → (recent chosen : List Nat) → Bits →
    Except Fault (List Nat × Bits)
  | 0, _, chosen, bits => .ok (chosen.reverse, bits)
  | count + 1, recent, chosen, bits => do
    let (place, bits) ← readUnary recent.length 0 bits
    match moveToFront place recent with
    | none => throw .corrupt
    | some (code, recent) => readSelectors count recent (code :: chosen) bits

def longestWord : Nat := 20

def readLength : (fuel : Nat) → (length : Nat) → Bits → Except Fault (Nat × Bits)
  | 0, _, _ => .error .corrupt
  | fuel + 1, length, bits => do
    if length == 0 || longestWord < length then throw .corrupt
    let (goesOn, bits) ← bits.next
    if !goesOn then return (length, bits)
    let (isDown, bits) ← bits.next
    readLength fuel (if isDown then length - 1 else length + 1) bits

def readLengths : (count : Nat) → (length : Nat) → (lengths : List Nat) → Bits →
    Except Fault (List Nat × Bits)
  | 0, _, lengths, bits => .ok (lengths.reverse, bits)
  | count + 1, length, lengths, bits => do
    let (length, bits) ← readLength (bits.size + 1) length bits
    readLengths count length (length :: lengths) bits

def readCodes (symbols : Nat) : (count : Nat) → (codes : List PrefixCode) → Bits →
    Except Fault (List PrefixCode × Bits)
  | 0, codes, bits => .ok (codes.reverse, bits)
  | count + 1, codes, bits => do
    let (length, bits) ← bits.number 5
    let (lengths, bits) ← readLengths symbols length [] bits
    if PrefixCode.room longestWord lengths > PrefixCode.wordCount longestWord then throw .corrupt
    readCodes symbols count (.ofLengths lengths :: codes) bits

def groupSize : Nat := 50

structure Reading where
  codes : Array PrefixCode
  selectors : List Nat
  left : Nat
  code : PrefixCode

def Reading.symbol (reading : Reading) (bits : Bits) : Except Fault (Nat × Reading × Bits) := do
  let reading ← match reading.left, reading.selectors with
    | 0, [] => throw .corrupt
    | 0, selector :: selectors =>
      match reading.codes[selector]? with
      | none => throw .corrupt
      | some code => pure { reading with selectors, code, left := groupSize }
    | _, _ => pure reading
  let (symbol, bits) ← reading.code.read bits
  return (symbol, { reading with left := reading.left - 1 }, bits)

def appendRun (byte : UInt8) : (count : Nat) → Array UInt8 → Array UInt8
  | 0, output => output
  | count + 1, output => appendRun byte count (output.push byte)

/-- The bytes of a block as they are arranged in it. Symbols 0 and 1 are the digits of the number
of times that the byte used last is repeated, to the base 2 with digits of value 1 and 2; the last
symbol ends the block; each other one names a byte by how recently it was used. -/
def readArranged (limit : Nat) (endSymbol : Nat) :
    (fuel : Nat) → Reading → (recent : List UInt8) → (run weight : Nat) → (output : Array UInt8) →
      Bits → Except Fault (Array UInt8 × Bits)
  | 0, _, _, _, _, _, _ => .error .corrupt
  | fuel + 1, reading, recent, run, weight, output, bits => do
    let (symbol, reading, bits) ← reading.symbol bits
    if symbol ≤ 1 then
      let run := run + weight * (symbol + 1)
      if limit < output.size + run then throw .corrupt
      readArranged limit endSymbol fuel reading recent run (2 * weight) output bits
    else
      let output := appendRun (recent.headD 0) run output
      if symbol == endSymbol then return (output, bits)
      else
        match moveToFront (symbol - 1) recent with
        | none => throw .corrupt
        | some (byte, recent) =>
          if limit ≤ output.size then throw .corrupt
          readArranged limit endSymbol fuel reading recent 0 1 (output.push byte) bits

def startsOf (arranged : Array UInt8) : Array Nat :=
  let counts := arranged.foldl (fun counts byte => counts.modify byte.toNat (· + 1))
    (Array.replicate 256 0)
  (counts.foldl (fun (starts, total) count => (starts.push total, total + count)) (#[], 0)).1

/-- Where the byte that follows each byte stands, by its place in sorted order. -/
def successors (arranged : Array UInt8) : Array Nat :=
  let place (state : Array Nat × Array Nat × Nat) (byte : UInt8) : Array Nat × Array Nat × Nat :=
    let (next, starts, i) := state
    (next.setIfInBounds (starts.getD byte.toNat 0) i, starts.modify byte.toNat (· + 1), i + 1)
  (arranged.foldl place (Array.replicate arranged.size 0, startsOf arranged, 0)).1

def walk (arranged : Array UInt8) (next : Array Nat) :
    (count : Nat) → (place : Nat) → (output : Array UInt8) → Array UInt8
  | 0, _, output => output
  | count + 1, place, output =>
    walk arranged next count (next.getD place 0) (output.push (arranged.getD place 0))

/-- Undoes the rearrangement of a block, whose first byte's place in sorted order is given. -/
def rearrange (arranged : Array UInt8) (origin : Nat) : Array UInt8 :=
  let next := successors arranged
  walk arranged next arranged.size (next.getD origin 0) #[]

/-- Undoes runs: four equal bytes are followed by how often the byte comes after them. `same` of
the bytes before are equal to `last`. -/
def expandRuns : (same : Nat) → (last : UInt8) → (output : Array UInt8) → List UInt8 → Array UInt8
  | _, _, output, [] => output
  | same, last, output, byte :: bytes =>
    if same == 4 then expandRuns 0 last (appendRun last byte.toNat output) bytes
    else if same != 0 && byte == last then expandRuns (same + 1) last (output.push byte) bytes
    else expandRuns 1 byte (output.push byte) bytes

def readBlock (limit : Nat) (bits : Bits) : Except Fault (Nat × Array UInt8 × Bits) := do
  let (checksum, bits) ← bits.number 32
  let (isRandomized, bits) ← bits.next
  if isRandomized then throw .corrupt
  let (origin, bits) ← bits.number 24
  let (alphabet, bits) ← readAlphabet bits
  let (codeCount, bits) ← bits.number 3
  if alphabet.isEmpty || codeCount < 2 || 6 < codeCount then throw .corrupt
  let (selectorCount, bits) ← bits.number 15
  let (selectors, bits) ← readSelectors selectorCount (List.range codeCount) [] bits
  let (codes, bits) ← readCodes (alphabet.length + 2) codeCount [] bits
  let reading : Reading := { codes := codes.toArray, selectors, left := 0, code := .missing }
  let (arranged, bits) ←
    readArranged limit (alphabet.length + 1) (bits.size + 1) reading alphabet 0 1 #[] bits
  if arranged.size ≤ origin then throw .corrupt
  return (checksum, expandRuns 0 0 #[] (rearrange arranged origin).toList, bits)

def readBlocks (limit : Nat) : (fuel : Nat) → (done : List ByteStream.Event) → Bits → ByteStream
  | 0, done, _ => done.reverse
  | fuel + 1, done, bits =>
    let step : Except Fault (Option (Nat × Array UInt8 × Bits)) := do
      let (mark, bits) ← bits.number 48
      if mark == endMark then
        let _ ← bits.number 32
        return none
      if mark != blockMark then throw .corrupt
      return some (← readBlock limit bits)
    match step with
    | .error _ => (.failure badBlock :: done).reverse
    | .ok none => done.reverse
    | .ok (some (checksum, output, bits)) =>
      let done := .bytes output.toList :: done
      if (Checksum.forward output).toNat == checksum then readBlocks limit fuel done bits
      else (.failure badBlock :: done).reverse

/-- The data that bzip2 data stand for. A header of four characters says how large a block may
be, in units of 100 000 bytes. -/
def expand (bytes : List UInt8) : ByteStream :=
  match bytes with
  | [] => []
  | 0x42 :: 0x5A :: 0x68 :: level :: rest =>
    if 0x31 ≤ level && level ≤ 0x39 then
      let bits : Bits := { order := .highFirst, bytes := rest }
      readBlocks ((level.toNat - 0x30) * 100000) (bits.size + 1) [] bits
    else [.failure badHeader]
  | _ => [.failure badHeader]

end LogQuery.Compression.Bzip2

import LogQuery.Compression.PrefixCode

/-! Data compressed as blocks of literal bytes and copies of earlier ones.

The copies reach into the last 32 KiB of the data, which are taken to be zeros before the start.
-/

set_option autoImplicit false

namespace LogQuery.Compression.Deflate

structure Expanded where
  output : Array UInt8
  ending : Except Fault Bits

structure Span where
  base : Nat
  extra : Nat

def lengthSpans : List Span :=
  [⟨3, 0⟩, ⟨4, 0⟩, ⟨5, 0⟩, ⟨6, 0⟩, ⟨7, 0⟩, ⟨8, 0⟩, ⟨9, 0⟩, ⟨10, 0⟩, ⟨11, 1⟩, ⟨13, 1⟩, ⟨15, 1⟩, ⟨17, 1⟩,
    ⟨19, 2⟩, ⟨23, 2⟩, ⟨27, 2⟩, ⟨31, 2⟩, ⟨35, 3⟩, ⟨43, 3⟩, ⟨51, 3⟩, ⟨59, 3⟩, ⟨67, 4⟩, ⟨83, 4⟩, ⟨99, 4⟩,
    ⟨115, 4⟩, ⟨131, 5⟩, ⟨163, 5⟩, ⟨195, 5⟩, ⟨227, 5⟩, ⟨258, 0⟩]

/-- How far back copies start: two spans for each number of further bits. -/
def distanceSpans : List Span :=
  [⟨1, 0⟩, ⟨2, 0⟩, ⟨3, 0⟩, ⟨4, 0⟩] ++
    (List.range 13).flatMap fun i => [⟨Nat.pow 2 (i + 2) + 1, i + 1⟩, ⟨3 * Nat.pow 2 (i + 1) + 1, i + 1⟩]

def readSpan (spans : List Span) (symbol : Nat) (bits : Bits) : Except Fault (Nat × Bits) :=
  match spans[symbol]? with
  | none => .error .corrupt
  | some span => do
    let (extra, bits) ← bits.number span.extra
    return (span.base + extra, bits)

def copy (distance : Nat) : (length : Nat) → Array UInt8 → Array UInt8
  | 0, output => output
  | length + 1, output =>
    let byte := if distance ≤ output.size then output.getD (output.size - distance) 0 else 0
    copy distance length (output.push byte)

structure Codes where
  literals : PrefixCode
  distances : PrefixCode

def endOfBlock : Nat := 256

/-- Expands the symbols of a block. Each takes a bit at least, so the bits bound their number. -/
def readSymbols (codes : Codes) :
    (fuel : Nat) → (output : Array UInt8) → Bits → Expanded
  | 0, output, _ => ⟨output, .error .corrupt⟩
  | fuel + 1, output, bits =>
    match codes.literals.read bits with
    | .error fault => ⟨output, .error fault⟩
    | .ok (symbol, bits) =>
      if symbol < endOfBlock then
        readSymbols codes fuel (output.push (UInt8.ofNat symbol)) bits
      else if symbol == endOfBlock then ⟨output, .ok bits⟩
      else
        let reach : Except Fault (Nat × Nat × Bits) := do
          let (length, bits) ← readSpan lengthSpans (symbol - 257) bits
          let (symbol, bits) ← codes.distances.read bits
          let (distance, bits) ← readSpan distanceSpans symbol bits
          return (length, distance, bits)
        match reach with
        | .error fault => ⟨output, .error fault⟩
        | .ok (length, distance, bits) =>
          readSymbols codes fuel (copy distance length output) bits

def fixedCodes : Codes where
  literals := .ofLengths <| List.replicate 144 8 ++ List.replicate 112 9 ++
    List.replicate 24 7 ++ List.replicate 8 8
  distances := .ofLengths (List.replicate 32 5)

def lengthOrder : List Nat :=
  [16, 17, 18, 0, 8, 7, 9, 6, 10, 5, 11, 4, 12, 3, 13, 2, 14, 1, 15]

def isUsable (longest : Nat) (lengths : List Nat) : Bool :=
  PrefixCode.room longest lengths == PrefixCode.wordCount longest || (lengths.filter (0 < ·)).length ≤ 1

def readLengths : (count : Nat) → (lengths : List Nat) → Bits → Except Fault (List Nat × Bits)
  | 0, lengths, bits => .ok (lengths.reverse, bits)
  | count + 1, lengths, bits => do
    let (length, bits) ← bits.number 3
    readLengths count (length :: lengths) bits

/-- Lengths behind those of `lengths`, last first, until there are `count`. Three symbols stand
for runs: of the length before, and of zeros. -/
def readRuns (code : PrefixCode) (count : Nat) :
    (fuel : Nat) → (lengths : List Nat) → Bits → Except Fault (List Nat × Bits)
  | 0, _, _ => .error .corrupt
  | fuel + 1, lengths, bits =>
    if lengths.length == count then .ok (lengths.reverse, bits)
    else if count < lengths.length then .error .corrupt
    else do
      let (symbol, bits) ← code.read bits
      match symbol with
      | 16 =>
        match lengths with
        | [] => .error .corrupt
        | last :: _ =>
          let (extra, bits) ← bits.number 2
          readRuns code count fuel (List.replicate (extra + 3) last ++ lengths) bits
      | 17 =>
        let (extra, bits) ← bits.number 3
        readRuns code count fuel (List.replicate (extra + 3) 0 ++ lengths) bits
      | 18 =>
        let (extra, bits) ← bits.number 7
        readRuns code count fuel (List.replicate (extra + 11) 0 ++ lengths) bits
      | length => readRuns code count fuel (length :: lengths) bits

def readCodes (bits : Bits) : Except Fault (Codes × Bits) := do
  let (literals, bits) ← bits.number 5
  let (distances, bits) ← bits.number 5
  let (lengths, bits) ← bits.number 4
  let literals := literals + 257
  let distances := distances + 1
  if literals > 286 || distances > 30 then throw .corrupt
  let (written, bits) ← readLengths (lengths + 4) [] bits
  let placed := lengthOrder.zip written
  let lengths := (List.range 19).map fun symbol => (placed.lookup symbol).getD 0
  if PrefixCode.room 7 lengths != PrefixCode.wordCount 7 then throw .corrupt
  let count := literals + distances
  let (lengths, bits) ← readRuns (.ofLengths lengths) count (count + 1) [] bits
  let (ofLiterals, ofDistances) := lengths.splitAt literals
  if !isUsable 15 ofLiterals || !isUsable 15 ofDistances then throw .corrupt
  return (⟨.ofLengths ofLiterals, .ofLengths ofDistances⟩, bits)

def readPlain : (count : Nat) → (output : Array UInt8) → Bits → Expanded
  | 0, output, bits => ⟨output, .ok bits⟩
  | count + 1, output, bits =>
    match bits.bytes with
    | [] => ⟨output, .error .truncated⟩
    | byte :: bytes => readPlain count (output.push byte) { bits with bytes }

/-- Expands a block that is not compressed. Its length is written twice, the second time with all
bits turned. -/
def readStored (output : Array UInt8) (bits : Bits) : Expanded :=
  let header : Except Fault (Nat × Bits) := do
    let (length, bits) ← bits.alignToByte.number 16
    let (turned, bits) ← bits.number 16
    if length + turned != 0xFFFF then throw .corrupt
    return (length, bits)
  match header with
  | .error fault => ⟨output, .error fault⟩
  | .ok (length, bits) => readPlain length output bits

def readBlock (kind : Nat) (output : Array UInt8) (bits : Bits) : Expanded :=
  match kind with
  | 0 => readStored output bits
  | 1 => readSymbols fixedCodes (bits.size + 1) output bits
  | 2 =>
    match readCodes bits with
    | .error fault => ⟨output, .error fault⟩
    | .ok (codes, bits) => readSymbols codes (bits.size + 1) output bits
  | _ => ⟨output, .error .corrupt⟩

def readBlocks : (fuel : Nat) → (output : Array UInt8) → Bits → Expanded
  | 0, output, _ => ⟨output, .error .corrupt⟩
  | fuel + 1, output, bits =>
    let header : Except Fault (Bool × Nat × Bits) := do
      let (isLast, bits) ← bits.next
      let (kind, bits) ← bits.number 2
      return (isLast, kind, bits)
    match header with
    | .error fault => ⟨output, .error fault⟩
    | .ok (isLast, kind, bits) =>
      match readBlock kind output bits with
      | ⟨output, .ok bits⟩ => if isLast then ⟨output, .ok bits⟩ else readBlocks fuel output bits
      | failed => failed

def expand (bytes : List UInt8) : Expanded :=
  let bits : Bits := { order := .lowFirst, bytes }
  readBlocks (bits.size + 1) #[] bits

end LogQuery.Compression.Deflate

import LogQuery.ByteStream.Basic
import LogQuery.Compression.Bits
import LogQuery.Compression.Deflate

/-! Gzip data: members one behind the other, each with a header, deflated data and a checksum. -/

set_option autoImplicit false

namespace LogQuery.Compression.Gzip

def endsEarly : Failure := ⟨.unexpectedEof, "unexpected end of file"⟩
def badHeader : Failure := ⟨.invalidInput, "invalid gzip header"⟩
def longField : Failure := ⟨.invalidInput, "gzip header field too long"⟩
def badData : Failure := ⟨.invalidInput, "corrupt deflate stream"⟩
def badChecksum : Failure :=
  ⟨.invalidInput, "corrupt gzip stream does not have a matching checksum"⟩

def littleEndian (bytes : List UInt8) : Nat := bytes.foldr (fun byte n => 256 * n + byte.toNat) 0

def takeBytes (count : Nat) (bytes : List UInt8) : Except Failure (List UInt8 × List UInt8) :=
  if bytes.length < count then .error endsEarly else .ok (bytes.splitAt count)

def fieldLimit : Nat := 65535

def skipText (bytes : List UInt8) : Except Failure (List UInt8) :=
  let (text, rest) := bytes.span (· != 0)
  if text.length > fieldLimit then .error longField
  else match rest with
    | [] => .error endsEarly
    | _ :: rest => .ok rest

/-- What follows the header. Its fourth byte says which fields it has: bit 1 a checksum of the
header, bit 2 data of a length written before them, bit 3 a name, bit 4 a remark. -/
def skipHeader (bytes : List UInt8) : Except Failure (List UInt8) := do
  let (fixed, rest) ← takeBytes 10 bytes
  let flags := (fixed.getD 3 0).toNat
  if fixed.take 3 != [0x1f, 0x8b, 8] || flags ≥ 0x20 then throw badHeader
  let mut rest := rest
  if flags.testBit 2 then
    let (length, after) ← takeBytes 2 rest
    let (_, after) ← takeBytes (littleEndian length) after
    rest := after
  if flags.testBit 3 then rest ← skipText rest
  if flags.testBit 4 then rest ← skipText rest
  if flags.testBit 1 then
    let header := bytes.take (bytes.length - rest.length)
    let (written, after) ← takeBytes 2 rest
    if littleEndian written != (Checksum.reflected header.toArray).toNat % 65536 then
      throw badChecksum
    rest := after
  return rest

/-- Data are handed on in pieces of this size, and none of a piece in which a fault is found. -/
def pieceSize : Nat := 32768

def readMember (bytes : List UInt8) : List UInt8 × Except Failure (List UInt8) :=
  match skipHeader bytes with
  | .error failure => ([], .error failure)
  | .ok body =>
    let ⟨output, ending⟩ := Deflate.expand body
    match ending with
    | .error .truncated => (output.toList, .error endsEarly)
    | .error .corrupt =>
      ((output.take (output.size / pieceSize * pieceSize)).toList, .error badData)
    | .ok bits =>
      let trailer : Except Failure (List UInt8) := do
        let (checksum, rest) ← takeBytes 4 bits.bytes
        let (size, rest) ← takeBytes 4 rest
        if littleEndian checksum != (Checksum.reflected output).toNat ||
            littleEndian size != output.size % 4294967296 then throw badChecksum
        return rest
      (output.toList, trailer)

def readMembers : (fuel : Nat) → (done : List ByteStream.Event) → List UInt8 → ByteStream
  | 0, done, _ => done.reverse
  | fuel + 1, done, bytes =>
    match readMember bytes with
    | (output, .error failure) => (.failure failure :: .bytes output :: done).reverse
    | (output, .ok []) => (.bytes output :: done).reverse
    | (output, .ok rest) => readMembers fuel (.bytes output :: done) rest

def expand (bytes : List UInt8) : ByteStream := readMembers (bytes.length + 1) [] bytes

end LogQuery.Compression.Gzip

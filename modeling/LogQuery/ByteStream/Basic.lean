import LogQuery.Text.Decode

/-! Streams of bytes that are read forward only, where a read may give less than asked for or fail,
and bytes as lines of text.

A stream is the list of what its reads will bring; no read goes beyond one item of it. A line ends
at a newline; one carriage return before it belongs to the line's end.
-/

set_option autoImplicit false

namespace LogQuery

inductive Failure.Kind where
  | notFound
  | permissionDenied
  | isADirectory
  | notADirectory
  | filesystemLoop
  | invalidName
  | interrupted
  | unexpectedEof
  | invalidInput
  | invalidData
  | other
  deriving DecidableEq, Repr

structure Failure where
  kind : Failure.Kind
  message : String
  deriving DecidableEq, Repr

/-- A read that was cut off before it brought anything, and may be tried again. -/
def Failure.interruption : Failure := ⟨.interrupted, "operation interrupted"⟩

def Failure.isInterruption (failure : Failure) : Bool := failure.kind == .interrupted

inductive ByteStream.Event where
  | bytes (data : List UInt8)
  | failure (cause : Failure)
  deriving DecidableEq, Repr

abbrev ByteStream := List ByteStream.Event

namespace ByteStream

/-- One read of at most `n` bytes, and the stream after it. No bytes at all are read at the end. -/
def read (n : Nat) : ByteStream → Except Failure (List UInt8) × ByteStream
  | [] => (.ok [], [])
  | .bytes [] :: rest => read n rest
  | .bytes (byte :: data) :: rest =>
    (.ok ((byte :: data).take n), .bytes ((byte :: data).drop n) :: rest)
  | .failure cause :: rest => (.error cause, rest)

/-- The bytes up to the next failure other than an interruption. -/
def bytesAhead : ByteStream → List UInt8
  | [] => []
  | .bytes data :: rest => data ++ bytesAhead rest
  | .failure cause :: rest => if cause.isInterruption then bytesAhead rest else []

def size : ByteStream → Nat
  | [] => 0
  | .bytes data :: rest => data.length + 1 + size rest
  | .failure _ :: rest => 1 + size rest

def readAll : ByteStream → List UInt8 × Option Failure
  | [] => ([], none)
  | .bytes data :: rest => let (bytes, failure) := readAll rest; (data ++ bytes, failure)
  | .failure cause :: rest => if cause.isInterruption then readAll rest else ([], some cause)

def readChain (n : Nat) : List ByteStream → Except Failure (List UInt8) × List ByteStream
  | [] => (.ok [], [])
  | stream :: streams =>
    if n == 0 then (.ok [], stream :: streams)
    else match stream.read n with
      | (.ok [], _) => readChain n streams
      | (result, stream) => (result, stream :: streams)

end ByteStream

end LogQuery

namespace LogQuery.ByteStream

/-- The complete lines in `bytes` behind those in `done`, and the bytes behind the last newline.
`current` holds the bytes of the line that is being read, the last one first. -/
def linesOnto (done : Array (List UInt8)) (current : List UInt8) :
    (bytes : List UInt8) → Array (List UInt8) × List UInt8
  | [] => (done, current.reverse)
  | 10 :: bytes =>
    let line := match current with
      | 13 :: line => line
      | _ => current
    linesOnto (done.push line.reverse) [] bytes
  | byte :: bytes => linesOnto done (byte :: current) bytes

def splitLines (bytes : List UInt8) : List (List UInt8) × List UInt8 :=
  let (lines, rest) := linesOnto #[] [] bytes
  (lines.toList, rest)

/-- Every line; what stands behind the last newline is one too, if it is anything at all. -/
def linesOf (bytes : List UInt8) : List (List UInt8) :=
  match splitLines bytes with
  | (lines, []) => lines
  | (lines, rest) => lines ++ [rest]

def lineText (line : List UInt8) : String := String.ofList (Text.decodeLossy line)

end LogQuery.ByteStream

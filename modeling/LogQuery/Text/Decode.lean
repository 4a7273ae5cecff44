/-! UTF-8, read so that every byte sequence has a text: where bytes are not well formed, each
longest beginning of a character that breaks off, and each byte that begins none, reads as U+FFFD.
-/

set_option autoImplicit false

namespace LogQuery.Text

def replacement : Char := '\uFFFD'

def isContinuation (b : UInt8) : Bool := 0x80 ≤ b && b ≤ 0xBF

/-- How the first byte of a character of several bytes goes on: how many bytes follow, and the
limits of the first of those, which keep out overlong forms, surrogates and what lies beyond
U+10FFFF. -/
def leadByte? (b : UInt8) : Option (Nat × UInt8 × UInt8) :=
  if 0xC2 ≤ b && b ≤ 0xDF then some (1, 0x80, 0xBF)
  else if b == 0xE0 then some (2, 0xA0, 0xBF)
  else if b == 0xED then some (2, 0x80, 0x9F)
  else if 0xE1 ≤ b && b ≤ 0xEF then some (2, 0x80, 0xBF)
  else if b == 0xF0 then some (3, 0x90, 0xBF)
  else if 0xF1 ≤ b && b ≤ 0xF3 then some (3, 0x80, 0xBF)
  else if b == 0xF4 then some (3, 0x80, 0x8F)
  else none

def leadBits (b : UInt8) (following : Nat) : Nat := b.toNat % Nat.pow 2 (6 - following)

def takeContinuations : (count bits : Nat) → List UInt8 → Nat × Nat × List UInt8
  | 0, bits, bytes => (0, bits, bytes)
  | count + 1, bits, [] => (count + 1, bits, [])
  | count + 1, bits, b :: bytes =>
    if isContinuation b then takeContinuations count (bits * 64 + b.toNat % 64) bytes
    else (count + 1, bits, b :: bytes)

theorem takeContinuations_length (count bits : Nat) (bytes : List UInt8) :
    (takeContinuations count bits bytes).2.2.length ≤ bytes.length := by
  induction bytes generalizing count bits with
  | nil => cases count <;> simp [takeContinuations]
  | cons b bytes ih =>
    cases count with
    | zero => simp [takeContinuations]
    | succ count =>
      simp only [takeContinuations]
      split
      · exact Nat.le_succ_of_le (ih _ _)
      · simp

def nextChar (b : UInt8) (bytes : List UInt8) : Option Char × List UInt8 :=
  if b < 0x80 then (some (Char.ofNat b.toNat), bytes)
  else match leadByte? b with
    | none => (none, bytes)
    | some (following, least, most) =>
      match bytes with
      | [] => (none, [])
      | second :: rest =>
        if least ≤ second && second ≤ most then
          let bits := leadBits b following * 64 + second.toNat % 64
          match takeContinuations (following - 1) bits rest with
          | (0, bits, rest) => (some (Char.ofNat bits), rest)
          | (_, _, rest) => (none, rest)
        else (none, bytes)

theorem nextChar_length (b : UInt8) (bytes : List UInt8) :
    (nextChar b bytes).2.length ≤ bytes.length := by
  unfold nextChar
  split
  · simp
  · split
    · simp
    · rename_i following least most _
      cases bytes with
      | nil => simp
      | cons second rest =>
        dsimp only
        split
        · have bound := takeContinuations_length (following - 1)
            (leadBits b following * 64 + second.toNat % 64) rest
          split <;> simp_all <;> omega
        · simp

/-- The characters of `done`, last first, and then those of the bytes, each ill-formed part as one
replacement character. -/
def decodeOnto (done : List Char) : List UInt8 → List Char
  | [] => done.reverse
  | b :: bytes =>
    let step := nextChar b bytes
    decodeOnto (step.1.getD replacement :: done) step.2
termination_by bytes => bytes.length
decreasing_by exact Nat.lt_succ_of_le (nextChar_length b bytes)

def decodeLossy (bytes : List UInt8) : List Char := decodeOnto [] bytes

theorem decodeOnto_eq (done : List Char) (bytes : List UInt8) :
    decodeOnto done bytes = done.reverse ++ decodeLossy bytes := by
  have general : ∀ (before done : List Char),
      decodeOnto (done ++ before) bytes = before.reverse ++ decodeOnto done bytes := by
    intro before done
    fun_induction decodeOnto done bytes with
    | case1 done => simp [decodeOnto]
    | case2 done b bytes step ih =>
      rw [decodeOnto, ← ih, List.cons_append]
  simpa [decodeLossy] using general done []

theorem decodeLossy_nil : decodeLossy [] = [] := by simp [decodeLossy, decodeOnto]

theorem decodeLossy_cons (b : UInt8) (bytes : List UInt8) :
    decodeLossy (b :: bytes) =
      (nextChar b bytes).1.getD replacement :: decodeLossy (nextChar b bytes).2 := by
  rw [decodeLossy, decodeOnto, decodeOnto_eq]; rfl

def isWellFormed : List UInt8 → Bool
  | [] => true
  | b :: bytes =>
    let step := nextChar b bytes
    step.1.isSome && isWellFormed step.2
termination_by bytes => bytes.length
decreasing_by exact Nat.lt_succ_of_le (nextChar_length b bytes)

def decode? (bytes : List UInt8) : Option (List Char) :=
  if isWellFormed bytes then some (decodeLossy bytes) else none

def encode (text : List Char) : List UInt8 := text.flatMap String.utf8EncodeChar

end LogQuery.Text

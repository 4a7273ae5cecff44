import LogQuery.Text.ControlPicture
import LogQuery.Time.Reading
import LogQuery.Time.Window

/-! Windows as users write them: `-1h`, `-1h+5m8s`, `12:30+5m` or `12:30-48h+15m`.

A clock time, or the present if there is none, is the reference. What follows a minus sign is the
distance from the window's start to the reference; what follows a plus sign is the window's length,
without which it lasts up to the present. A sign with nothing behind it counts as not written.
-/

set_option autoImplicit false

namespace LogQuery.Time

inductive WindowError where
  | badReference (text : String)
  | badDuration (text : String)
  | startAfterEnd (start finish : DateTime)
  deriving DecidableEq, Repr

def WindowError.message : WindowError → String
  | badReference text => s!"invalid time reference {Text.quoted text}, expected HH:MM or HH:MM:SS"
  | badDuration text => s!"invalid duration {Text.quoted text}, expected e.g. 1h30m, 5m8s, 1.5h"
  | startAfterEnd start finish => s!"time window start {start.text} is after end {finish.text}"

/-- The parts of a specification. Of several parts with the same sign the last is kept. -/
structure WindowParts where
  reference : List Char
  minus : Option (List Char) := none
  plus : Option (List Char) := none
  deriving DecidableEq, Repr

def splitAtSigns (text : List Char) : List Char × List (Char × List Char) :=
  text.foldr (fun c (front, signed) =>
    if c == '-' || c == '+' then ([], (c, front) :: signed) else (c :: front, signed)) ([], [])

def WindowParts.ofText (text : List Char) : WindowParts :=
  let (reference, signed) := splitAtSigns text
  signed.foldl (fun parts (sign, value) =>
    if sign == '-' then { parts with minus := some value } else { parts with plus := some value })
    ⟨reference, none, none⟩

def readClock? (text : List Char) : Option (Nat × Fin 2000000000) :=
  let withSeconds : List Field := [.hour, .text [':'], .minute, .text [':'], .second]
  let withoutSeconds : List Field := [.hour, .text [':'], .minute]
  (Reading.ofText withSeconds text).orElse (fun _ => Reading.ofText withoutSeconds text)
    |>.bind Reading.clock?

/-- The time at which the clock last showed `reference`, in the offset of `now`. -/
def parseReference (reference : String) (now : DateTime) : Except WindowError DateTime :=
  let found := (readClock? reference.toList).bind fun (second, nano) =>
    (DateTime.ofLocal? now.localDate second nano now.offset).bind fun t =>
      if now < t then t.sub? (secondsPerDay * nanosPerSecond) else some t
  match found with
  | some t => .ok t
  | none => .error (.badReference reference)

def unitNanos? (unit : List Char) : Option Float :=
  match String.ofList unit with
  | "d" => some 86400e9
  | "h" => some 3600e9
  | "m" => some 60e9
  | "s" => some 1e9
  | "ms" => some 1e6
  | "us" | "µs" | "μs" => some 1e3
  | "ns" => some 1
  | _ => none

def isNumeral (c : Char) : Bool := c.isDigit || c == '.'

def readDecimal? (text : List Char) : Option Float :=
  let (whole, rest) := text.span (· != '.')
  let fraction := rest.drop 1
  if (whole ++ fraction).isEmpty then none
  else (Text.readDigits? (whole ++ fraction)).map fun mantissa =>
    Float.ofScientific mantissa true fraction.length

def durationParts? : List (List Char) → Option (List Float)
  | [] => some []
  | [_] => none
  | number :: unit :: rest => do
    let value := (← readDecimal? number) * (← unitNanos? unit)
    some (value :: (← durationParts? rest))

def longestDuration : Nat := Text.signedLimit - 1

/-- The whole number nearest to one that is not negative; a half is rounded up. -/
def nearest (value : Float) : Nat :=
  let whole := value.toUInt64
  if value - whole.toFloat < 0.5 then whole.toNat else whole.toNat + 1

def parseDuration (text : String) : Except WindowError Duration :=
  let runs := text.toList.splitBy fun a b => isNumeral a == isNumeral b
  match durationParts? runs with
  | some (part :: parts) =>
    let total := parts.foldl (· + ·) (0 + part)
    if !total.isFinite || total > Float.ofNat (longestDuration + 1) then .error (.badDuration text)
    else .ok (min (nearest total) longestDuration)
  | _ => .error (.badDuration text)

/-- The instant to which a part's duration leads. A part that is empty leads to `otherwise`. -/
def readEnd (part : Option (List Char)) (otherwise : DateTime)
    (move? : Duration → Option DateTime) : Except WindowError DateTime :=
  match part.filter (!·.isEmpty) with
  | none => .ok otherwise
  | some written => do
    let text := String.ofList written
    match move? (← parseDuration text) with
    | some t => .ok t
    | none => .error (.badDuration text)

def Window.parse (spec : String) (now : DateTime) : Except WindowError Window := do
  let parts := WindowParts.ofText (Unicode.trim spec.toList)
  let reference ←
    if parts.reference.isEmpty then pure now else parseReference (String.ofList parts.reference) now
  let start ← readEnd parts.minus reference reference.sub?
  let finish ← readEnd parts.plus now start.add?
  if finish < start then throw (.startAfterEnd start finish)
  return ⟨start, finish⟩

end LogQuery.Time

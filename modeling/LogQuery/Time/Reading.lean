import LogQuery.Time.DateTime
import LogQuery.Unicode.Basic

/-! Reading dates and clock times from text by a list of fields.

A field takes what it needs from the front of the text. Numbers, month names and offsets are
ASCII only; numbers and offsets may have blanks in front. A reading succeeds when every field
does and no text is left. Offsets are also known by the names of zones.
-/

set_option autoImplicit false

namespace LogQuery.Time

open Unicode (trimStart)

/-- Which spellings of an offset are read besides `+hh:mm`; the colon may be missing or repeated. -/
structure OffsetStyle where
  zulu : Bool
  hoursOnly : Bool
  deriving DecidableEq, Repr

inductive Field where
  | text (value : List Char)
  | blanks
  | year | month | day | hour | minute | second
  | monthName
  | fraction
  | offset (style : OffsetStyle)
  deriving DecidableEq, Repr

structure Reading where
  year : Option Int := none
  month : Option Nat := none
  day : Option Nat := none
  hour : Option Nat := none
  minute : Option Nat := none
  second : Option Nat := none
  nano : Option Nat := none
  offset : Option Int := none
  deriving DecidableEq, Repr

def takeDigits : (most : Nat) → List Char → List Char × List Char
  | 0, text => ([], text)
  | _, [] => ([], [])
  | most + 1, c :: rest =>
    if c.isDigit then
      let (digits, after) := takeDigits most rest
      (c :: digits, after)
    else ([], c :: rest)

theorem takeDigits_append (most : Nat) (text : List Char) :
    (takeDigits most text).1 ++ (takeDigits most text).2 = text := by
  induction text generalizing most with
  | nil => cases most <;> rfl
  | cons c rest ih =>
    cases most with
    | zero => rfl
    | succ most =>
      simp only [takeDigits]
      split
      · simpa using ih most
      · rfl

def readNumber (most : Nat) (text : List Char) : Option (Nat × List Char) :=
  let (digits, rest) := takeDigits most text
  (Text.readDigits? digits).map (·, rest)

def readTwo (least most : Nat) (text : List Char) : Option (Nat × List Char) :=
  (readNumber 2 (trimStart text)).filter fun (n, _) => least ≤ n && n ≤ most

def digitsOfWord : Nat := 18

/-- Four digits, or any number of them after a sign. -/
def readYear (text : List Char) : Option (Int × List Char) :=
  match trimStart text with
  | '-' :: rest => (readNumber digitsOfWord rest).map fun (n, after) => (-(n : Int), after)
  | '+' :: rest => (readNumber digitsOfWord rest).map fun (n, after) => ((n : Int), after)
  | rest => (readNumber 4 rest).map fun (n, after) => ((n : Int), after)

def readMonthName (text : List Char) : Option (Nat × List Char) :=
  let name := (text.take 3).map Char.toLower
  let names := monthNames.map fun name => name.toList.map Char.toLower
  match names.findIdx? (· == name) with
  | some index => some (index + 1, text.drop 3)
  | none => none

/-- A point and the digits of a second. Nine digits count; more are passed over. -/
def readFraction (text : List Char) : Option (Option Nat × List Char) :=
  match text with
  | '.' :: rest =>
    let (digits, after) := takeDigits 9 rest
    (Text.readDigits? digits).map fun n =>
      (some (n * Nat.pow 10 (9 - digits.length)), after.dropWhile Char.isDigit)
  | _ => some (none, text)

def readPair (most : Nat) (text : List Char) : Option (Nat × List Char) :=
  match text with
  | a :: b :: rest => do
    let tens ← Text.digitValue? a
    let ones ← Text.digitValue? b
    if tens ≤ most then some (tens * 10 + ones, rest) else none
  | _ => none

/-- The sign of an offset: true when west of UTC. The typographic minus sign counts too. -/
def readSign (text : List Char) : Option (Bool × List Char) :=
  match text with
  | '+' :: rest => some (false, rest)
  | '-' :: rest => some (true, rest)
  | '−' :: rest => some (true, rest)
  | _ => none

/-- Hours, then any colons and blanks, then minutes. -/
def readOffset (style : OffsetStyle) (text : List Char) : Option (Int × List Char) :=
  match style.zulu, text with
  | true, 'Z' :: rest => some (0, rest)
  | true, 'z' :: rest => some (0, rest)
  | _, _ => do
    let (west, afterSign) ← readSign text
    let (hours, afterHours) ← readPair 9 afterSign
    let beforeMinutes := afterHours.dropWhile fun c => c == ':' || Unicode.isBlank c
    let (minutes, rest) ←
      if beforeMinutes.isEmpty && style.hoursOnly then some (0, []) else readPair 5 beforeMinutes
    let seconds : Int := hours * 3600 + minutes * 60
    some (if west then -seconds else seconds, rest)

def readText : (value : List Char) → List Char → Option (List Char)
  | [], text => some text
  | v :: value, c :: text => if v == c then readText value text else none
  | _ :: _, [] => none

def Field.read (field : Field) (reading : Reading) (text : List Char) :
    Option (Reading × List Char) :=
  match field with
  | .text value => (readText value text).map (reading, ·)
  | .blanks => some (reading, trimStart text)
  | .year => (readYear text).map fun (n, rest) => ({ reading with year := some n }, rest)
  | .month => (readTwo 1 12 text).map fun (n, rest) => ({ reading with month := some n }, rest)
  | .day => (readTwo 1 31 text).map fun (n, rest) => ({ reading with day := some n }, rest)
  | .hour => (readTwo 0 23 text).map fun (n, rest) => ({ reading with hour := some n }, rest)
  | .minute => (readTwo 0 59 text).map fun (n, rest) => ({ reading with minute := some n }, rest)
  | .second => (readTwo 0 60 text).map fun (n, rest) => ({ reading with second := some n }, rest)
  | .monthName => (readMonthName text).map fun (n, rest) => ({ reading with month := some n }, rest)
  | .fraction => (readFraction text).map fun (n, rest) =>
      ({ reading with nano := n.or reading.nano }, rest)
  | .offset style => (readOffset style (trimStart text)).map fun (n, rest) =>
      ({ reading with offset := some n }, rest)

def Reading.ofText (fields : List Field) (text : List Char) : Option Reading :=
  go fields {} text
where
  go : List Field → Reading → List Char → Option Reading
    | [], reading, [] => some reading
    | [], _, _ :: _ => none
    | field :: fields, reading, text =>
      match field.read reading text with
      | some (reading, rest) => go fields reading rest
      | none => none

namespace Reading

def clock? (r : Reading) : Option (Nat × Fin 2000000000) := do
  let hour ← r.hour
  let minute ← r.minute
  let second := r.second.getD 0
  let leap := if second == 60 then nanosPerSecond else 0
  let nano := r.nano.getD 0 + leap
  some (hour * 3600 + minute * 60 + min second 59, toNano nano)

def date? (r : Reading) : Option Date := do
  let date : Date := ⟨← r.year, ← r.month, ← r.day⟩
  if date.isValid then some date else none

def inOffset? (r : Reading) (offset : Int) : Option DateTime := do
  let date ← r.date?
  let (second, nano) ← r.clock?
  DateTime.ofLocal? date second nano offset

def dateTime? (r : Reading) : Option DateTime := do
  let offset ← r.offset
  if DateTime.offsetInRange offset then r.inOffset? offset else none

end Reading

/-- Zone names and the numeric offsets they stand for. A name of two zones means the one listed. -/
def zoneNames : List (String × String) := [
  ("UT", "+0000"), ("UTC", "+0000"), ("GMT", "+0000"), ("Z", "+0000"), ("WET", "+0000"),
  ("BST", "+0100"), ("CET", "+0100"), ("WEST", "+0100"), ("CEST", "+0200"), ("EET", "+0200"),
  ("EEST", "+0300"), ("MSK", "+0300"), ("JST", "+0900"), ("KST", "+0900"), ("AEST", "+1000"),
  ("AEDT", "+1100"), ("NZST", "+1200"), ("AST", "-0400"), ("EDT", "-0400"), ("EST", "-0500"),
  ("CDT", "-0500"), ("CST", "-0600"), ("MDT", "-0600"), ("MST", "-0700"), ("PDT", "-0700"),
  ("PST", "-0800"), ("AKST", "-0900"), ("HST", "-1000")]

def zoneOffset? (name : List Char) : Option (List Char) :=
  (zoneNames.find? fun (known, _) => known.toList == name).map fun (_, offset) => offset.toList

def parseOffset (text : String) : Option Int := do
  let numeric := (zoneOffset? text.toList).getD text.toList
  let reading ← Reading.ofText [.blanks, .offset ⟨true, true⟩] numeric
  let offset ← reading.offset
  if DateTime.offsetInRange offset then some offset else none

end LogQuery.Time

import LogQuery.Time.LineFormat
import LogQuery.Proofs.Time.Digits

/-! Datetimes as they may be written at the beginning of a line, with a year.

There is one way of writing for each format with a year, with all that the format leaves open:
digits of a second, where the offset stands and how it is spelled, how the day is written.
-/

set_option autoImplicit false

namespace LogQuery.Time

/-- What calendar and clock show, in a year of which four digits are written. -/
structure Stamp where
  date : Date
  hour : Nat
  minute : Nat
  second : Nat
  date_valid : date.isValid = true
  year_ge : 1000 ≤ date.year
  year_le : date.year ≤ 2999
  hour_lt : hour < 24
  minute_lt : minute < 60
  second_lt : second < 60

structure Fraction where
  comma : Bool
  count : Nat
  value : Nat
  count_pos : 0 < count
  count_le : count ≤ 9
  value_lt : value < Nat.pow 10 count

structure Offset where
  west : Bool
  hours : Nat
  minutes : Nat
  hours_lt : hours < 24
  minutes_lt : minutes < 60

namespace Stamp

variable (stamp : Stamp)

def yearText : List Char := digits 4 stamp.date.year.toNat

def dateText : List Char :=
  stamp.yearText ++ '-' :: digits 2 stamp.date.month ++ '-' :: digits 2 stamp.date.day

def clockText : List Char :=
  digits 2 stamp.hour ++ ':' :: digits 2 stamp.minute ++ ':' :: digits 2 stamp.second

def monthText : List Char := ((monthNames[stamp.date.month - 1]?).getD "").toList

def secondOfDay : Nat := stamp.hour * 3600 + stamp.minute * 60 + stamp.second

/-- Does the clock on the wall show this, in the offset that the instant is carried with? -/
structure IsShown (t : DateTime) : Prop where
  whole : t.localSeconds = stamp.date.toDays * secondsPerDay + stamp.secondOfDay
  date : t.localDate = stamp.date
  clock : t.localSecondOfDay = stamp.secondOfDay

end Stamp

namespace Fraction

variable (fraction : Fraction)

def text : List Char :=
  (if fraction.comma then ',' else '.') :: digits fraction.count fraction.value

def nanos : Nat := fraction.value * Nat.pow 10 (9 - fraction.count)

def pointed : Fraction := { fraction with comma := false }

end Fraction

namespace Offset

variable (offset : Offset)

def seconds : Int :=
  let east : Int := offset.hours * 3600 + offset.minutes * 60
  if offset.west then -east else east

def sign : Char := if offset.west then '-' else '+'

def text (colon : Bool) : List Char :=
  offset.sign :: digits 2 offset.hours ++ (if colon then [':'] else []) ++ digits 2 offset.minutes

def utc : Offset := ⟨false, 0, 0, by decide, by decide⟩

end Offset

inductive OffsetSpelling where
  | zulu
  | numeric (offset : Offset) (colon : Bool)

namespace OffsetSpelling

def text : OffsetSpelling → List Char
  | zulu => ['Z']
  | numeric offset colon => offset.text colon

def offset : OffsetSpelling → Offset
  | zulu => .utc
  | numeric offset _ => offset

end OffsetSpelling

/-- How the day of a month is written, if it has one digit. -/
inductive DaySpelling where
  | short
  | spaced
  | padded

def DaySpelling.unspaced : DaySpelling → DaySpelling
  | padded => padded
  | _ => short

def DaySpelling.text (spelling : DaySpelling) (day : Nat) : List Char :=
  match spelling with
  | short => if day < 10 then digits 1 day else digits 2 day
  | spaced => if day < 10 then ' ' :: digits 1 day else digits 2 day
  | padded => digits 2 day

structure NamedZone where
  name : String
  offset : Offset
  listed : (name, String.ofList (offset.text false)) ∈ zoneNames

inductive ZoneSpelling where
  | numeric (offset : Offset)
  | named (zone : NamedZone)

namespace ZoneSpelling

def text : ZoneSpelling → List Char
  | numeric offset => offset.text false
  | named zone => zone.name.toList

def offset : ZoneSpelling → Offset
  | numeric offset => offset
  | named zone => zone.offset

end ZoneSpelling

abbrev Weekday := { name : String // name ∈ weekdayNames }

/-- The ways to write a datetime with a year, one for each format that has one. -/
inductive Writing where
  -- 2019-01-31T12:00:00.123456 +0100
  | isoFractionSpaceOffset (fraction : Fraction) (offset : Offset) (colon : Bool)
  -- 2016-12-05T06:57:36.123456+01:00
  | isoFractionOffset (fraction : Fraction) (offset : OffsetSpelling)
  -- 2016-12-05T06:57:36+0100
  | isoOffset (offset : OffsetSpelling)
  -- 2016-12-05T06:57:36.123
  | isoFraction (fraction : Fraction)
  -- 2016-12-05T06:57:36
  | iso
  -- 2016-12-05 06:57:36,000+0100
  | plainFractionOffset (fraction : Fraction) (spaced : Bool) (offset : Offset) (colon : Bool)
  -- 2016-12-05 06:57:36.000
  | plainFraction (fraction : Fraction)
  -- 2016-12-05 06:57:36 +0100
  | plainOffset (spaced : Bool) (offset : Offset) (colon : Bool)
  -- 2016-12-05 06:57:36
  | plain
  -- Dec  5 06:57:36 2016
  | monthFirst (day : DaySpelling)
  -- Mon Dec  5 06:57:36 2016
  | weekdayFirst (weekday : Weekday) (day : DaySpelling)
  -- Mon, 05 Dec 2016 06:57:36 +0000
  | mail (weekday : Weekday) (comma padded : Bool) (zone : ZoneSpelling)

namespace Writing

def format : Writing → LineFormat
  | isoFractionSpaceOffset .. => LineFormat.all[0]
  | isoFractionOffset .. => LineFormat.all[1]
  | isoOffset .. => LineFormat.all[2]
  | isoFraction .. => LineFormat.all[3]
  | iso => LineFormat.all[4]
  | plainFractionOffset .. => LineFormat.all[5]
  | plainFraction .. => LineFormat.all[6]
  | plainOffset .. => LineFormat.all[7]
  | plain => LineFormat.all[8]
  | monthFirst .. => LineFormat.all[9]
  | weekdayFirst .. => LineFormat.all[10]
  | mail .. => LineFormat.all[11]

def lead : Writing → List Char
  | weekdayFirst weekday _ => weekday.val.toList ++ [' ']
  | mail weekday comma _ _ => weekday.val.toList ++ (if comma then [','] else []) ++ [' ']
  | _ => []

def fraction? : Writing → Option Fraction
  | isoFractionSpaceOffset fraction .. | isoFractionOffset fraction _ | isoFraction fraction
  | plainFractionOffset fraction .. | plainFraction fraction => some fraction
  | _ => none

def offset? : Writing → Option Offset
  | isoFractionSpaceOffset _ offset _ | plainFractionOffset _ _ offset _
  | plainOffset _ offset _ => some offset
  | isoFractionOffset _ spelling | isoOffset spelling => some spelling.offset
  | mail _ _ _ zone => some zone.offset
  | _ => none

def nanos (writing : Writing) : Nat := (writing.fraction?.map Fraction.nanos).getD 0

def dated (stamp : Stamp) (separator : Char) (ending : List Char) : List Char :=
  stamp.dateText ++ separator :: stamp.clockText ++ ending

def gap (spaced : Bool) : List Char := if spaced then [' '] else []

def yearLast (stamp : Stamp) (day : DaySpelling) : List Char :=
  stamp.monthText ++ ' ' :: day.text stamp.date.day ++ ' ' :: stamp.clockText ++
    ' ' :: stamp.yearText

def mailed (stamp : Stamp) (padded : Bool) (zone : ZoneSpelling) : List Char :=
  (if padded then DaySpelling.padded else .short).text stamp.date.day ++ ' ' :: stamp.monthText ++
    ' ' :: stamp.yearText ++ ' ' :: stamp.clockText ++ ' ' :: zone.text

def body (stamp : Stamp) : Writing → List Char
  | isoFractionSpaceOffset fraction offset colon =>
    dated stamp 'T' (fraction.text ++ ' ' :: offset.text colon)
  | isoFractionOffset fraction offset => dated stamp 'T' (fraction.text ++ offset.text)
  | isoOffset offset => dated stamp 'T' offset.text
  | isoFraction fraction => dated stamp 'T' fraction.text
  | iso => dated stamp 'T' []
  | plainFractionOffset fraction spaced offset colon =>
    dated stamp ' ' (fraction.text ++ (gap spaced ++ offset.text colon))
  | plainFraction fraction => dated stamp ' ' fraction.text
  | plainOffset spaced offset colon => dated stamp ' ' (gap spaced ++ offset.text colon)
  | plain => dated stamp ' ' []
  | monthFirst day | weekdayFirst _ day => yearLast stamp day
  | mail _ _ padded zone => mailed stamp padded zone

def text (writing : Writing) (stamp : Stamp) : List Char := writing.lead ++ writing.body stamp

/-- The same in the way that the fields of the format can read. -/
def tidied : Writing → Writing
  | isoFractionSpaceOffset fraction offset _ =>
    isoFractionOffset fraction.pointed (.numeric offset false)
  | isoFractionOffset fraction spelling =>
    isoFractionOffset fraction.pointed (.numeric spelling.offset false)
  | isoOffset spelling => isoOffset (.numeric spelling.offset false)
  | isoFraction fraction => isoFraction fraction.pointed
  | iso => iso
  | plainFractionOffset fraction _ offset _ =>
    plainFractionOffset fraction.pointed false offset false
  | plainFraction fraction => plainFraction fraction.pointed
  | plainOffset _ offset _ => plainOffset false offset false
  | plain => plain
  | monthFirst day => monthFirst day.unspaced
  | weekdayFirst weekday day => weekdayFirst weekday day.unspaced
  | mail weekday comma padded zone => mail weekday comma padded (.numeric zone.offset)

end Writing

/-- Is this what may follow a datetime, nothing or a message in words? -/
def IsMessage (text : List Char) : Prop :=
  text = [] ∨ ∃ c rest, text = ' ' :: c :: rest ∧ c.isLower = true

end LogQuery.Time

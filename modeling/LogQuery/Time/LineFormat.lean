import LogQuery.Time.Reading
import LogQuery.Time.Shape

/-! The datetime formats that lines may begin with, in the order in which they are tried.

A format has the shape of a line's beginning, of which `body` is the datetime itself; a tidying of
that text; and the fields by which the tidied text is read.
-/

set_option autoImplicit false

namespace LogQuery.Time

inductive Tidying where
  | none
  | spaces
  | fractionAndOffset
  | zoneName
  deriving DecidableEq, Repr

def collapseBlanks : List Char → List Char
  | [] => []
  | c :: rest =>
    if Unicode.isBlank c then
      match rest with
      | next :: _ => if Unicode.isBlank next then collapseBlanks rest else ' ' :: collapseBlanks rest
      | [] => [' ']
    else c :: collapseBlanks rest

def splitBytes? : (bytes : Nat) → List Char → Option (List Char × List Char)
  | 0, text => some ([], text)
  | _ + 1, [] => none
  | bytes + 1, c :: text =>
    if c.utf8Size ≤ bytes + 1 then
      (splitBytes? (bytes + 1 - c.utf8Size) text).map fun (front, rest) => (c :: front, rest)
    else none

def byteCount (text : List Char) : Nat := text.foldl (fun count c => count + c.utf8Size) 0

def splitLastBytes? (bytes : Nat) (text : List Char) : Option (List Char × List Char) :=
  if bytes ≤ byteCount text then splitBytes? (byteCount text - bytes) text else none

def isSign (c : Char) : Bool := c == '+' || c == '-'

/-- A final `+hh:mm` loses its colon. The place of the colon alone is looked at. -/
def dropOffsetColon (text : List Char) : List Char :=
  match splitLastBytes? 6 text with
  | some (front, offset) =>
    match offset, splitBytes? 3 offset with
    | sign :: _, some (hours, ':' :: minutes) =>
      if isSign sign then front ++ hours ++ minutes else text
    | _, _ => text
  | none => text

def dropOffsetSpace (text : List Char) : List Char :=
  match splitLastBytes? 6 text with
  | some (front, ' ' :: sign :: rest) => if isSign sign then front ++ sign :: rest else text
  | _ => text

def spellOutZulu (text : List Char) : List Char :=
  match text.getLast? with
  | some 'Z' => text.dropLast ++ "+0000".toList
  | _ => text

def splitLastSpace? (text : List Char) : Option (List Char × List Char) :=
  match text.reverse.span (· != ' ') with
  | (word, _ :: front) => some (front.reverse, word.reverse)
  | (_, []) => none

def Tidying.apply (tidying : Tidying) (text : List Char) : List Char :=
  match tidying with
  | none => text
  | spaces => collapseBlanks text
  | fractionAndOffset =>
    dropOffsetSpace (dropOffsetColon (spellOutZulu (text.map fun c => if c == ',' then '.' else c)))
  | zoneName =>
    let plain := text.filter (· != ',')
    match splitLastSpace? plain with
    | some (front, name) =>
      match zoneOffset? name with
      | some offset => front ++ ' ' :: offset
      | Option.none => plain
    | Option.none => plain

structure LineFormat where
  lead : Shape
  body : Shape
  tidying : Tidying
  fields : List Field
  hasYear : Bool
  hasOffset : Bool

namespace LineFormat

open Shape

def year : Shape := anyOf "12" ++ times 3 digit
def twoDigits : Shape := times 2 digit
def monthWord : Shape := anyWord monthNames
/-- A day of one digit, with a space before it or not, or of two. -/
def dayOfMonth : Shape := either (optional (char ' ') ++ digit) twoDigits
def weekday : Shape := anyWord weekdayNames
def clock : Shape := sequence [twoDigits, char ':', twoDigits, char ':', twoDigits]
def fraction : Shape := anyOf ".," ++ between 1 9 digit
def threeDigitFraction : Shape := char '.' ++ times 3 digit
def signedOffset : Shape := sequence [anyOf "+-", twoDigits, optional (char ':'), twoDigits]
def offsetOrZulu : Shape := either (char 'Z') signedOffset
def offsetOrName : Shape :=
  either (anyOf "+-" ++ times 4 digit) (between 1 5 upperLetter)
def date : Shape := sequence [year, char '-', twoDigits, char '-', twoDigits]
def space : Shape := char ' '

def readSpace : List Field := [.blanks]
def readDate : List Field := [.year, .text ['-'], .month, .text ['-'], .day]
def readClock : List Field := [.hour, .text [':'], .minute, .text [':'], .second]
def readMonthDay : List Field := [.monthName, .blanks, .day]
def readDayMonth : List Field := [.day, .blanks, .monthName]
def readOffset : List Field := [.offset ⟨false, false⟩]

/-- Formats that would match a part of another's text come after it. -/
def all : List LineFormat := [
  -- 2019-01-31T12:00:00.123456 +0100
  { lead := nothing, body := sequence [date, char 'T', clock, fraction, space, signedOffset]
    tidying := .fractionAndOffset
    fields := readDate ++ [.text ['T']] ++ readClock ++ [.fraction] ++ readOffset
    hasYear := true, hasOffset := true },
  -- 2016-12-05T06:57:36.123456+01:00
  { lead := nothing, body := sequence [date, char 'T', clock, fraction, offsetOrZulu]
    tidying := .fractionAndOffset
    fields := readDate ++ [.text ['T']] ++ readClock ++ [.fraction] ++ readOffset
    hasYear := true, hasOffset := true },
  -- 2016-12-05T06:57:36+0100
  { lead := nothing, body := sequence [date, char 'T', clock, offsetOrZulu]
    tidying := .fractionAndOffset
    fields := readDate ++ [.text ['T']] ++ readClock ++ readOffset
    hasYear := true, hasOffset := true },
  -- 2016-12-05T06:57:36.123
  { lead := nothing, body := sequence [date, char 'T', clock, fraction]
    tidying := .fractionAndOffset
    fields := readDate ++ [.text ['T']] ++ readClock ++ [.fraction]
    hasYear := true, hasOffset := false },
  -- 2016-12-05T06:57:36
  { lead := nothing, body := sequence [date, char 'T', clock]
    tidying := .none
    fields := readDate ++ [.text ['T']] ++ readClock
    hasYear := true, hasOffset := false },
  -- 2016-12-05 06:57:36,000+0100
  { lead := nothing, body := sequence [date, space, clock, fraction, optional space, signedOffset]
    tidying := .fractionAndOffset
    fields := readDate ++ readSpace ++ readClock ++ [.fraction] ++ readOffset
    hasYear := true, hasOffset := true },
  -- 2016-12-05 06:57:36.000
  { lead := nothing, body := sequence [date, space, clock, fraction]
    tidying := .fractionAndOffset
    fields := readDate ++ readSpace ++ readClock ++ [.fraction]
    hasYear := true, hasOffset := false },
  -- 2016-12-05 06:57:36 +0100
  { lead := nothing, body := sequence [date, space, clock, optional space, signedOffset]
    tidying := .fractionAndOffset
    fields := readDate ++ readSpace ++ readClock ++ readOffset
    hasYear := true, hasOffset := true },
  -- 2016-12-05 06:57:36
  { lead := nothing, body := sequence [date, space, clock]
    tidying := .none
    fields := readDate ++ readSpace ++ readClock
    hasYear := true, hasOffset := false },
  -- Dec  5 06:57:36 2016
  { lead := nothing, body := sequence [monthWord, space, dayOfMonth, space, clock, space, year]
    tidying := .spaces
    fields := readMonthDay ++ readSpace ++ readClock ++ readSpace ++ [.year]
    hasYear := true, hasOffset := false },
  -- Mon Dec  5 06:57:36 2016
  { lead := weekday ++ space
    body := sequence [monthWord, space, dayOfMonth, space, clock, space, year]
    tidying := .spaces
    fields := readMonthDay ++ readSpace ++ readClock ++ readSpace ++ [.year]
    hasYear := true, hasOffset := false },
  -- Mon, 05 Dec 2016 06:57:36 +0000
  { lead := sequence [weekday, optional (char ','), space]
    body := sequence [between 1 2 digit, space, monthWord, space, year, space, clock, space,
      offsetOrName]
    tidying := .zoneName
    fields := readDayMonth ++ readSpace ++ [.year] ++ readSpace ++ readClock ++ readSpace ++ readOffset
    hasYear := true, hasOffset := true },
  -- Mon, 05 Dec 06:57:36.000 +0000
  { lead := sequence [weekday, optional (char ','), space]
    body := sequence [twoDigits, space, monthWord, space, clock, threeDigitFraction, space,
      offsetOrName]
    tidying := .zoneName
    fields := readDayMonth ++ readSpace ++ readClock ++ [.fraction] ++ readSpace ++ readOffset
    hasYear := false, hasOffset := true },
  -- Mon, 05 Dec 06:57:36 UTC
  { lead := sequence [weekday, optional (char ','), space]
    body := sequence [twoDigits, space, monthWord, space, clock, space, offsetOrName]
    tidying := .zoneName
    fields := readDayMonth ++ readSpace ++ readClock ++ readSpace ++ readOffset
    hasYear := false, hasOffset := true },
  -- Mon Dec  5 06:57:36.000
  { lead := weekday ++ space
    body := sequence [monthWord, space, dayOfMonth, space, clock, threeDigitFraction]
    tidying := .spaces
    fields := readMonthDay ++ readSpace ++ readClock ++ [.fraction]
    hasYear := false, hasOffset := false },
  -- Mon Dec  5 06:57:36
  { lead := weekday ++ space
    body := sequence [monthWord, space, dayOfMonth, space, clock]
    tidying := .spaces
    fields := readMonthDay ++ readSpace ++ readClock
    hasYear := false, hasOffset := false },
  -- Dec  5 06:57:36, the form of syslog
  { lead := nothing, body := sequence [monthWord, space, dayOfMonth, space, clock]
    tidying := .spaces
    fields := readMonthDay ++ readSpace ++ readClock
    hasYear := false, hasOffset := false }]

def value? (format : LineFormat) (line : List Char) : Option (List Char) :=
  (capture? format.lead format.body line).map format.tidying.apply

end LineFormat

end LogQuery.Time

import LogQuery.Text.Decode
import LogQuery.Time.LineFormat

/-! Finding the datetime at the beginning of a line. -/

set_option autoImplicit false

namespace LogQuery.Time

structure Recognizer where
  offset : Int
  /-- the instant that datetimes without a year may not exceed -/
  now : DateTime
  deriving DecidableEq, Repr

namespace Recognizer

/-- Bytes at the beginning of a line that are looked at; every format is shorter. -/
def prefixLength : Nat := 64

def read (r : Recognizer) (fields : List Field) (hasOffset : Bool) (value : List Char) :
    Option DateTime :=
  match Reading.ofText fields value with
  | some reading => if hasOffset then reading.dateTime? else reading.inOffset? r.offset
  | none => none

/-- Years that are tried for a datetime without one, latest first. Four years back there is a
29 February unless a century without one lies between. -/
def candidateYears (r : Recognizer) : List Int :=
  let latest := (r.now.withOffset r.offset).localDate.year
  [latest, latest - 1, latest - 2, latest - 3, latest - 4]

def readYearless (r : Recognizer) (fields : List Field) (hasOffset : Bool) (value : List Char) :
    Option DateTime :=
  r.candidateYears.findSome? fun year =>
    (r.read (.year :: .blanks :: fields) hasOffset ((toString year).toList ++ ' ' :: value)).filter
      (· ≤ r.now)

def inFormat (r : Recognizer) (line : List Char) (format : LineFormat) : Option DateTime :=
  match format.value? line with
  | some value =>
    if format.hasYear then r.read format.fields format.hasOffset value
    else r.readYearless format.fields format.hasOffset value
  | none => none

def ofText (r : Recognizer) (line : List Char) : Option DateTime :=
  LineFormat.all.findSome? (r.inFormat line)

def ofBytes (r : Recognizer) (line : List UInt8) : Option DateTime :=
  r.ofText (Text.decodeLossy (line.take prefixLength))

end Recognizer

structure Tagger where
  recognizer : Recognizer
  last : Option DateTime := none

def Tagger.tag (tagger : Tagger) (line : List Char) : Option DateTime × Tagger :=
  let found := (tagger.recognizer.ofText line).or tagger.last
  (found, { tagger with last := found })

def Tagger.tagAll (tagger : Tagger) : List (List Char) → List (Option DateTime)
  | [] => []
  | line :: lines =>
    let (found, tagger) := tagger.tag line
    found :: tagger.tagAll lines

end LogQuery.Time

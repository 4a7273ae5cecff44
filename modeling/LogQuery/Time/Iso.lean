import LogQuery.Time.Reading

/-! Datetimes in the form `2016-12-05T09:00:00.5+01:00`. -/

set_option autoImplicit false

namespace LogQuery.Time

def readExactly (count : Nat) (text : List Char) : Option (Nat × List Char) :=
  let (digits, rest) := takeDigits count text
  if digits.length == count then (Text.readDigits? digits).map (·, rest) else none

/-- A datetime with four-digit year, `T`, `t` or a blank before the clock time, and an offset. -/
def DateTime.ofIso? (text : String) : Option DateTime := do
  let (year, rest) ← readExactly 4 text.toList
  let rest ← readText ['-'] rest
  let (month, rest) ← readExactly 2 rest
  let rest ← readText ['-'] rest
  let (day, rest) ← readExactly 2 rest
  let rest ← match rest with
    | 'T' :: rest => some rest
    | 't' :: rest => some rest
    | ' ' :: rest => some rest
    | _ => none
  let (hour, rest) ← readExactly 2 rest
  let rest ← readText [':'] rest
  let (minute, rest) ← readExactly 2 rest
  let rest ← readText [':'] rest
  let (second, rest) ← readExactly 2 rest
  let (nano, rest) ← readFraction rest
  let (offset, rest) ← readOffset ⟨true, false⟩ rest
  if rest.isEmpty && hour < 24 && minute < 60 && second ≤ 60 then
    let reading : Reading :=
      ⟨some year, some month, some day, some hour, some minute, some second, nano, some offset⟩
    reading.dateTime?
  else none

end LogQuery.Time

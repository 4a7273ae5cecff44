import LogQuery.Files.Disk
import LogQuery.Time.Window

/-! Logs kept in one file for each hour, in a directory for each category. -/

set_option autoImplicit false

namespace LogQuery.Hourly

open Time

def secondsPerHour : Nat := 3600

def hourFloor (t : DateTime) : DateTime :=
  { t with seconds := t.seconds - t.localSeconds % secondsPerHour, nano := toNano 0 }

def hourCeiling (t : DateTime) : DateTime :=
  let floor := hourFloor t
  if floor.position = t.position then floor
  else { floor with seconds := floor.seconds + secondsPerHour }

/-- The hours whose files a window needs: from the one it starts in, as long as they are not
past its end. -/
def hoursOf (window : Window) : List DateTime :=
  let first := hourFloor window.start
  let room := (hourCeiling window.finish).seconds - first.seconds
  (List.range ((room + (secondsPerHour - 1)) / secondsPerHour).toNat).map fun (i : Nat) =>
    { first with seconds := first.seconds + (i * secondsPerHour : Nat) }

def fileName (category : String) (t : DateTime) : String :=
  let hour := Text.zeroPadded 2 (t.localSecondOfDay / secondsPerHour)
  s!"{category}-{DateTime.dateText t.localDate}_000{hour}"

def filePath (directory category : String) (t : DateTime) : String :=
  Path.join (Path.join directory category) (fileName category t)

end LogQuery.Hourly

import LogQuery.Proofs.ByteStream.Parts
import LogQuery.Proofs.Pipeline.FullScan
import LogQuery.Proofs.Source.Hourly
import LogQuery.Source.Chain
import Mathlib.Data.List.Flatten

/-! Archives of hourly files, and which of their files a window opens. -/

set_option autoImplicit false

namespace LogQuery

open ByteStream (dates segments IsWhole segments_flatten areApart_of_whole)
open Hourly (hourOf hourStart hourBehind hoursOf filePath)

structure HourFile where
  hour : Int
  bytes : List UInt8

/-- Does the file hold whole lines, the first of them dated, and all dates of its own hour? -/
structure HourFile.IsProper (recognizer : Time.Recognizer) (offset : Int) (file : HourFile) :
    Prop where
  whole : IsWhole file.bytes
  begins : (segments file.bytes).head?.any (fun line => (recognizer.ofBytes line).isSome) = true
  own : ∀ t ∈ dates recognizer.ofBytes file.bytes, hourOf offset t = file.hour

structure Archive (recognizer : Time.Recognizer) (offset : Int) where
  files : List HourFile
  ascending : files.Pairwise (·.hour < ·.hour)
  proper : ∀ file ∈ files, file.IsProper recognizer offset
  ordered : (dates recognizer.ofBytes (files.flatMap (·.bytes))).Pairwise (· ≤ ·)

section Bytes

variable {recognizer : Time.Recognizer} {offset : Int} {files : List HourFile}

theorem segments_flatMap (whole : ∀ file ∈ files, IsWhole file.bytes) :
    segments (files.flatMap (·.bytes)) = files.flatMap fun file => segments file.bytes := by
  rw [List.flatMap_def, segments_flatten (areApart_of_whole (List.forall_mem_map.2 whole)),
    List.flatMap_map]

theorem dates_flatMap (whole : ∀ file ∈ files, IsWhole file.bytes) :
    dates recognizer.ofBytes (files.flatMap (·.bytes)) =
      files.flatMap fun file => dates recognizer.ofBytes file.bytes := by
  rw [dates, segments_flatMap whole, List.filterMap_flatMap]
  rfl

end Bytes

namespace Archive

variable {recognizer : Time.Recognizer} {offset : Int}

def stream (archive : Archive recognizer offset) : ByteStream :=
  archive.files.map fun file => .bytes file.bytes

theorem readAll_stream (archive : Archive recognizer offset) :
    archive.stream.readAll = (archive.files.flatMap (·.bytes), none) := by
  rw [stream]
  induction archive.files with
  | nil => rfl
  | cons file files ih => rw [List.map_cons, ByteStream.readAll, ih, List.flatMap_cons]

def between (archive : Archive recognizer offset) (first behind : Int) :
    Archive recognizer offset where
  files := archive.files.filter fun file => first ≤ file.hour && file.hour < behind
  ascending := archive.ascending.filter _
  proper file member := archive.proper file (List.mem_of_mem_filter member)
  ordered := by
    have whole : ∀ file ∈ archive.files, IsWhole file.bytes :=
      fun file member => (archive.proper file member).whole
    have ordered := archive.ordered
    rw [dates_flatMap whole] at ordered
    rw [dates_flatMap fun file member => whole file (List.mem_of_mem_filter member)]
    exact ordered.sublist (List.filter_sublist.flatMap _)

theorem files_between (archive : Archive recognizer offset) (first behind : Int) :
    (archive.between first behind).files =
      archive.files.filter fun file => first ≤ file.hour && file.hour < behind := rfl

def file? (archive : Archive recognizer offset) (hour : Int) : Option HourFile :=
  archive.files.find? (·.hour == hour)

theorem filter_hour_succ {files : List HourFile} (ascending : files.Pairwise (·.hour < ·.hour))
    {first last : Int} (le : first ≤ last) :
    files.filter (fun file => first ≤ file.hour && file.hour < last + 1) =
      files.filter (fun file => first ≤ file.hour && file.hour < last) ++
        (files.find? (·.hour == last)).toList := by
  induction files with
  | nil => rfl
  | cons file files ih =>
    obtain ⟨later, ascending⟩ := List.pairwise_cons.1 ascending
    -- the files behind that of the last hour are too late
    have none_behind (bound : Int) (reached : bound ≤ file.hour + 1) :
        files.filter (fun file => first ≤ file.hour && file.hour < bound) = [] := by
      rw [List.filter_eq_nil_iff]
      intro other member
      have behind := later other member
      simp only [Bool.and_eq_true, decide_eq_true_eq]
      omega
    rw [List.filter_cons, List.filter_cons, List.find?_cons]
    rcases Int.lt_trichotomy file.hour last with before | same | behind
    · have other : (file.hour == last) = false := by simp; omega
      have within : decide (file.hour < last) = decide (file.hour < last + 1) := by simp; omega
      rw [other, ih ascending, within]
      split <;> rfl
    · rw [none_behind _ (by omega), none_behind _ (by omega)]
      have within : last < last + 1 := by omega
      simp [same, le, within]
    · have other : (file.hour == last) = false := by simp; omega
      have unfound : files.find? (·.hour == last) = none := by
        rw [List.find?_eq_none]
        intro other member
        have behind := later other member
        simp only [beq_iff_eq]
        omega
      rw [none_behind _ (by omega), none_behind _ (by omega), other, unfound]
      have late : ¬ file.hour < last + 1 := by omega
      have late' : ¬ file.hour < last := by omega
      simp [late, late']

/-- Hour for hour, the files of a range are those that are asked for. -/
theorem filterMap_file? (archive : Archive recognizer offset) (first behind : Int) :
    (List.range (behind - first).toNat).filterMap (fun (i : Nat) => archive.file? (first + i)) =
      (archive.between first behind).files := by
  generalize room : (behind - first).toNat = count
  induction count generalizing behind with
  | zero =>
    symm
    rw [files_between, List.range_zero, List.filterMap_nil, List.filter_eq_nil_iff]
    intro file _
    simp only [Bool.and_eq_true, decide_eq_true_eq]
    omega
  | succ count ih =>
    obtain ⟨last, rfl⟩ : ∃ last, behind = last + 1 := ⟨behind - 1, by omega⟩
    have lastEq : first + (count : Int) = last := by omega
    rw [List.range_succ, List.filterMap_append, ih last (by omega), files_between, files_between,
      filter_hour_succ archive.ascending (by omega), List.filterMap_cons, lastEq, file?]
    cases archive.files.find? (·.hour == last) <;> rfl

end Archive

/-! ### What is opened -/

def Disk.IsAbsent (disk : Disk) (path : String) : Prop :=
  ∃ failure, disk.openFile path = .error failure ∧ failure.kind = .notFound

namespace Chain

theorem openIfPresent_absent {disk : Disk} {path : String} (absent : disk.IsAbsent path) :
    openIfPresent disk path = .ok none := by
  obtain ⟨failure, opened, kind⟩ := absent
  rw [openIfPresent, opened]
  simp [kind]

theorem openHour_present {disk : Disk} {path : String} {stream : ByteStream}
    (opened : disk.openFile path = .ok stream) : openHour disk path = .ok (some stream) := by
  rw [openHour, openIfPresent, opened]
  rfl

theorem openHour_absent {disk : Disk} {path : String} (absent : disk.IsAbsent path)
    (absentPacked : disk.IsAbsent (path ++ ".gz")) : openHour disk path = .ok none := by
  rw [openHour, openIfPresent_absent absent, openIfPresent_absent absentPacked]
  rfl

/-- Where no hour fails to open, the files come in the order of the hours, and those that are
missing are told in the same order. -/
theorem openHours_eq {disk : Disk} {path : Time.DateTime → String}
    {present : Time.DateTime → Option ByteStream} {hours : List Time.DateTime}
    (opens : ∀ hour ∈ hours, openHour disk (path hour) = .ok (present hour))
    (missing : List String) (streams : List ByteStream) :
    openHours disk missing streams (hours.map path) =
      (missing.reverse ++ (hours.filter fun hour => (present hour).isNone).map path,
        .ok (streams.reverse ++ hours.filterMap present)) := by
  induction hours generalizing missing streams with
  | nil => simp [openHours]
  | cons hour hours ih =>
    have later := ih fun other member => opens other (List.mem_cons_of_mem _ member)
    rw [List.map_cons, openHours, opens hour List.mem_cons_self, List.filter_cons,
      List.filterMap_cons]
    cases found : present hour with
    | none => simp [later]
    | some stream => simp [later]

end Chain

namespace Archive

variable {recognizer : Time.Recognizer} {offset : Int}

def StandsOn (archive : Archive recognizer offset) (disk : Disk) (directory category : String)
    (hour : Time.DateTime) : Prop :=
  let path := filePath directory category hour
  match archive.file? (hourOf offset hour) with
  | some file => disk.openFile path = .ok [.bytes file.bytes]
  | none => disk.IsAbsent path ∧ disk.IsAbsent (path ++ ".gz")

theorem StandsOn.openHour {archive : Archive recognizer offset} {disk : Disk}
    {directory category : String} {hour : Time.DateTime}
    (stands : archive.StandsOn disk directory category hour) :
    Chain.openHour disk (filePath directory category hour) =
      .ok ((archive.file? (hourOf offset hour)).map fun file => [.bytes file.bytes]) := by
  rw [StandsOn] at stands
  split at stands
  · next file found => rw [found]; exact Chain.openHour_present stands
  · next unfound => rw [unfound]; exact Chain.openHour_absent stands.1 stands.2

/-- A window opens the files from the hour that it starts in up to the one before the whole hour at
or behind its end. -/
theorem openFor_eq (archive : Archive recognizer offset) {window : Time.Window}
    (startsIn : window.start.offset = offset) (endsIn : window.finish.offset = offset) {disk : Disk}
    {directory category : String}
    (stands : ∀ hour ∈ hoursOf window, archive.StandsOn disk directory category hour) :
    ((Chain.hourly directory category).openFor disk window).2 =
      .ok (archive.between (hourOf offset window.start) (hourBehind window.finish)).stream := by
  have opened := Chain.openHours_eq (fun hour member => (stands hour member).openHour) [] []
  have asked : (hoursOf window).filterMap (fun hour => archive.file? (hourOf offset hour)) =
      (archive.between (hourOf offset window.start) (hourBehind window.finish)).files := by
    rw [Hourly.hoursOf_eq startsIn endsIn, List.filterMap_map, ← archive.filterMap_file?]
    congr 1
    funext i
    simp
  rw [Chain.openFor]
  simp only [opened, List.reverse_nil, List.nil_append, ← List.map_filterMap, asked]
  rw [Except.map, stream, ← List.flatMap_def, ← List.map_eq_flatMap]

end Archive

end LogQuery

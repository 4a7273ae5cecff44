import LogQuery.Proofs.ByteStream.Filling
import LogQuery.Proofs.ByteStream.Parts
import LogQuery.Source.Chain
import Mathlib.Data.List.Forall2

/-! The lines of rotated files that are read one behind the other.

Nothing is put between two files, so where one ends in the middle of a line, the next one that is
not empty goes on with that line. -/

set_option autoImplicit false

namespace LogQuery

open ByteStream

def RotatedFile.Holds (disk : Disk) (file : RotatedFile) (bytes : List UInt8) : Prop :=
  ∃ stream, file.openOn disk = .ok stream ∧ stream.readAll = (bytes, none)

namespace Chain

variable {disk : Disk} {files : List RotatedFile} {contents : List (List UInt8)}

theorem openFor_rotated (held : List.Forall₂ (RotatedFile.Holds disk) files contents)
    (window : Time.Window) :
    ∃ stream, ((Chain.rotated files).openFor disk window).2 = .ok stream ∧
      stream.readAll = (contents.flatten, none) := by
  induction held with
  | nil => exact ⟨[], rfl, rfl⟩
  | @cons file bytes files contents first _ ih =>
    obtain ⟨stream, opened, unbroken⟩ := first
    obtain ⟨later, openedLater, unbrokenLater⟩ := ih
    refine ⟨stream ++ later, ?_, ?_⟩
    · rw [openFor] at openedLater ⊢
      rw [List.mapM_cons, opened]
      cases rest : files.mapM fun (file : RotatedFile) => file.openOn disk with
      | error failure =>
        rw [rest] at openedLater
        cases openedLater
      | ok streams =>
        rw [rest] at openedLater
        cases openedLater
        rfl
    · rw [readAll_append unbroken, unbrokenLater, List.flatten_cons]

/-- The lines of rotated files that are read one behind the other are the lines of each, exactly if
no file ends in the middle of a line while a file that is not empty comes behind it. Then every line
is made of bytes of one file. Wherever what was read so far does end in the middle of a line, that
line and the first one behind it are one. -/
theorem linesOf_rotated (held : List.Forall₂ (RotatedFile.Holds disk) files contents)
    (window : Time.Window) :
    ∃ stream, ((Chain.rotated files).openFor disk window).2 = .ok stream ∧
      stream.readAll = (contents.flatten, none) ∧
      (linesOf stream.readAll.1 = contents.flatMap linesOf ↔ AreApart contents) ∧
      (AreApart contents → segments stream.readAll.1 = contents.flatMap segments) ∧
      ∀ older newer, contents = older ++ newer → ¬ IsWhole older.flatten → newer.flatten ≠ [] →
        ∃ finished last first rest, segments older.flatten = finished ++ [last] ∧
          segments newer.flatten = first :: rest ∧
          segments stream.readAll.1 = finished ++ (last ++ first) :: rest := by
  obtain ⟨stream, opened, unbroken⟩ := openFor_rotated held window
  refine ⟨stream, opened, unbroken, ?_⟩
  rw [unbroken]
  refine ⟨linesOf_flatten_iff contents, segments_flatten, ?_⟩
  rintro older newer rfl broken more
  rw [List.flatten_append]
  exact segments_append_broken broken more

def oneRotated : List RotatedFile := [⟨"logs/www.1", some 1, .plain⟩, ⟨"logs/www", none, .plain⟩]

def diskWith (old live : String) : Disk where
  entries :=
    [(["logs"], .directory), (["logs", "www"], .file (Text.encode live.toList)),
      (["logs", "www.1"], .file (Text.encode old.toList))]

theorem linesOf_liveUnfinished :
    let disk := diskWith "2016-12-05 09:00:00 old\n" "2016-12-05 09:30:00 new"
    ∃ contents, List.Forall₂ (RotatedFile.Holds disk) oneRotated contents ∧ AreApart contents ∧
      ∀ window, ∃ stream, ((Chain.rotated oneRotated).openFor disk window).2 = .ok stream ∧
        linesOf stream.readAll.1 = contents.flatMap linesOf ∧
        (linesOf stream.readAll.1).map lineText =
          ["2016-12-05 09:00:00 old", "2016-12-05 09:30:00 new"] := by
  intro disk
  let old := Text.encode "2016-12-05 09:00:00 old\n".toList
  let live := Text.encode "2016-12-05 09:30:00 new".toList
  have held : List.Forall₂ (RotatedFile.Holds disk) oneRotated [old, live] :=
    .cons ⟨[.bytes old], by decide +kernel, by decide +kernel⟩
      (.cons ⟨[.bytes live], by decide +kernel, by decide +kernel⟩ .nil)
  have apart : AreApart [old, live] :=
    areApart_cons.2 ⟨fun _ => .inr (by decide +kernel), List.pairwise_singleton ..⟩
  refine ⟨_, held, apart, fun window => ?_⟩
  obtain ⟨stream, opened, unbroken, same, -⟩ := linesOf_rotated held window
  refine ⟨stream, opened, same.2 apart, ?_⟩
  rw [unbroken]
  decide +kernel

/-- The first line of the live file, which has a date, is lost in the last one of the older file. -/
theorem liveLine_hidden :
    let disk := diskWith "2016-12-05 09:00:00 old" "2016-12-05 09:30:00 new\n"
    ∃ contents, List.Forall₂ (RotatedFile.Holds disk) oneRotated contents ∧
      (contents.flatMap linesOf).map lineText =
        ["2016-12-05 09:00:00 old", "2016-12-05 09:30:00 new"] ∧
      ∀ window, ∃ stream, ((Chain.rotated oneRotated).openFor disk window).2 = .ok stream ∧
        linesOf stream.readAll.1 ≠ contents.flatMap linesOf ∧
        (linesOf stream.readAll.1).map lineText =
          ["2016-12-05 09:00:00 old2016-12-05 09:30:00 new"] := by
  intro disk
  let old := Text.encode "2016-12-05 09:00:00 old".toList
  let live := Text.encode "2016-12-05 09:30:00 new\n".toList
  have held : List.Forall₂ (RotatedFile.Holds disk) oneRotated [old, live] :=
    .cons ⟨[.bytes old], by decide +kernel, by decide +kernel⟩
      (.cons ⟨[.bytes live], by decide +kernel, by decide +kernel⟩ .nil)
  refine ⟨_, held, by decide +kernel, fun window => ?_⟩
  obtain ⟨stream, opened, unbroken⟩ := openFor_rotated held window
  refine ⟨stream, opened, ?_⟩
  rw [unbroken]
  exact ⟨by decide +kernel, by decide +kernel⟩

end Chain

end LogQuery

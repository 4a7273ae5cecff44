import LogQuery.Chart.Layout
import LogQuery.Sink
import LogQuery.Tally
import LogQuery.Text.Width
import LogQuery.Timeline

/-! Reports: what is written about the records of a query.

`show` writes the columns of every record, `uniq` a table of how often each content was seen,
`inspect` the first few records in full, `plot` a chart of how many records fall into each part of
the window.
-/

set_option autoImplicit false

namespace LogQuery.Report

def barElements : List Char := [' ', '▏', '▎', '▍', '▌', '▋', '▊', '▉', '█']

/-- The number of steps that are filled of `width` cells with nine steps each. What is not a number
fills none. -/
def filledSteps (width : Nat) (fraction : Float) : Nat :=
  let clamped := if fraction < 0.0 then 0.0 else if fraction > 1.0 then 1.0 else fraction
  (clamped * (width * 9).toUInt64.toFloat).toUInt64.toNat

def barCell (filled place : Nat) : Char :=
  if (place + 1) * 9 < filled then '█'
  else if filled ≤ place * 9 then ' '
  else barElements.getD (filled - place * 9 - 1) ' '

def bar (width : Nat) (fraction : Float) : String :=
  String.ofList ((List.range width).map (barCell (filledSteps width fraction)))

end LogQuery.Report

namespace LogQuery

namespace Report

inductive Color where
  | red
  | green
  | yellow
  | blue
  | magenta
  | cyan
  deriving DecidableEq, Repr

def Color.name : Color → String
  | red => "Red"
  | green => "Green"
  | yellow => "Yellow"
  | blue => "Blue"
  | magenta => "Magenta"
  | cyan => "Cyan"

def Color.code : Color → Nat
  | red => 31
  | green => 32
  | yellow => 33
  | blue => 34
  | magenta => 35
  | cyan => 36

def columnColor (n : Nat) : Color :=
  match n % 6 with
  | 0 => .red
  | 1 => .green
  | 2 => .yellow
  | 3 => .blue
  | 4 => .magenta
  | _ => .cyan

def resetSequence : String := "\x1b[0m"

def colored (n : Nat) (text : String) : String :=
  s!"{resetSequence}\x1b[{(columnColor n).code}m{text}{resetSequence}"

/-- Moves the cursor up over lines written before, and clears everything from there on. -/
def rewind (lines : Nat) : String :=
  if lines == 0 then "" else s!"\x1b[{min lines 65535}A\x1b[J"

def asLines (lines : List String) : String := String.join (lines.map (· ++ "\n"))

def columnsLine (color : Bool) (record : Record) : String :=
  let columns := if color then record.columns.mapIdx fun i text => colored (i + 1) text
    else record.columns
  " ".intercalate columns ++ "\n"

/-- How `uniq` shows its table: the `top` entries, cut to the width of the terminal, or all of them
in full if that is 0. -/
structure TableStyle where
  top : Nat
  width : Nat
  live : Bool
  deriving DecidableEq, Repr

def barWidth : Nat := 16

def tableRow (style : TableStyle) (most : Nat) (entry : Tally.Entry) : String :=
  let fraction := entry.count.toUInt64.toFloat / most.toUInt64.toFloat
  let count := Text.padLeft 9 ' ' (toString entry.count)
  let front := s!"{count}▕{bar barWidth fraction} "
  let columns := " ".intercalate entry.columns
  if style.top == 0 then front ++ columns
  else front ++ Text.truncate columns (style.width - (Text.width front.toList + 1))

def tableRows (style : TableStyle) (tally : Tally) : List String :=
  let shown := if style.top == 0 then tally.ranked else tally.ranked.take style.top
  shown.map (tableRow style (max tally.highest 1))

def inspectRule : String := "----------------"

def inspectLines (record : Record) : List String :=
  s!"Line: {record.line}" ::
    record.columns.mapIdx fun i text => Text.padLeft 4 ' ' (toString (i + 1)) ++ ": " ++ text

end Report

/-- A report and what it has seen. `drawn` counts the rows that stand on the screen from the last
update. -/
inductive Report where
  | show (color : Bool)
  | uniq (style : Report.TableStyle) (tally : Tally) (drawn : Nat)
  | inspect (count written : Nat)
  | plot (layout : Chart.Layout) (live : Bool) (timeline : Timeline) (drawn : Nat)

namespace Report

def ofTable (style : TableStyle) : Report := uniq style {} 0

def ofChart (layout : Chart.Layout) (live : Bool) : Report :=
  plot layout live (Timeline.ofSize layout.window layout.sampleCount) 0

def name : Report → String
  | .show .. => "show"
  | .uniq .. => "uniq"
  | .inspect .. => "inspect"
  | .plot .. => "plot"

/-- Seconds between updates, for a report that is kept up to date while records arrive. -/
def updatePeriod? : Report → Option Nat
  | .uniq style .. => if style.live && 0 < style.top then some 1 else none
  | .plot _ live .. => if live then some 1 else none
  | _ => none

def wantsMore : Report → Bool
  | .inspect count written => written < count
  | _ => true

def consume (report : Report) (record : Record) : Report × String :=
  match report with
  | .show color => (report, columnsLine color record)
  | .uniq style tally drawn => (.uniq style (tally.add record) drawn, "")
  | .inspect count written =>
    if written < count then
      let rule := if written == 0 then [] else [inspectRule]
      (.inspect count (written + 1), asLines (rule ++ inspectLines record))
    else (report, "")
  | .plot layout live timeline drawn =>
    let timeline := match record.time with
      | some t => timeline.add t 1
      | none => timeline
    (.plot layout live timeline drawn, "")

def rows : Report → List String
  | .uniq style tally _ => tableRows style tally
  | .plot layout _ timeline _ => layout.render timeline.counts
  | _ => []

def drawn : Report → Nat
  | .uniq _ _ drawn => drawn
  | .plot _ _ _ drawn => drawn
  | _ => 0

def withDrawn (report : Report) (drawn : Nat) : Report :=
  match report with
  | .uniq style tally _ => .uniq style tally drawn
  | .plot layout live timeline _ => .plot layout live timeline drawn
  | _ => report

def update (report : Report) : Report × String :=
  let rows := report.rows
  (report.withDrawn rows.length, rewind report.drawn ++ asLines rows)

def finish (report : Report) : Report × String :=
  (report.withDrawn 0, rewind report.drawn ++ asLines report.rows)

end Report

/-- The sink that writes a report, together with what it has written. It never fails. -/
def Report.sink : Sink (Report × String) Empty where
  wantsMore := fun (report, _) => report.wantsMore
  consume := fun (report, written) record =>
    let (report, text) := report.consume record
    ((report, written ++ text), .ok report.wantsMore)
  update := fun (report, written) =>
    let (report, text) := report.update
    ((report, written ++ text), .ok ())
  finish := fun (report, written) =>
    let (report, text) := report.finish
    ((report, written ++ text), .ok ())

end LogQuery

import LogQuery.Chart.Bitmap
import LogQuery.Chart.Mode
import LogQuery.Text.Basic
import LogQuery.Time.Window

/-! Charts as lines of text, with a frame and labels. -/

set_option autoImplicit false

namespace LogQuery.Chart

/-- How a chart is laid out. Width and height count glyphs, frame and labels included. -/
structure Layout where
  mode : Mode
  width : Nat
  height : Nat
  hasBorder : Bool
  hasTimeLabels : Bool
  hasCountLabels : Bool
  window : Time.Window
  deriving DecidableEq, Repr

def countLabelWidth : Nat := 5

def blanks (n : Nat) : String := String.ofList (List.replicate n ' ')

namespace Layout

def plotWidth (layout : Layout) : Nat :=
  let border := if layout.hasBorder then 1 else 0
  let labels := if layout.hasCountLabels then countLabelWidth else 0
  max (layout.width - border - labels) 1

def plotHeight (layout : Layout) : Nat :=
  let border := if layout.hasBorder then 1 else 0
  let labels := if layout.hasTimeLabels then 1 else 0
  max (layout.height - border - labels) 1

def sampleCount (layout : Layout) : Nat := layout.plotWidth * layout.mode.cellWidth

def bitmap (layout : Layout) (counts : Array Nat) : Bitmap :=
  .ofCounts counts layout.sampleCount (layout.plotHeight * layout.mode.cellHeight)

def cellBits (mode : Mode) (bitmap : Bitmap) (column row : Nat) : Nat :=
  let pixel (dx dy bit : Nat) : Nat :=
    if bitmap.isSet (column * mode.cellWidth + dx) (row * mode.cellHeight + dy) then Nat.pow 2 bit else 0
  let total (values : List Nat) : Nat := values.foldl (· + ·) 0
  total (mode.bits.mapIdx fun dy bits => total (bits.mapIdx fun dx bit => pixel dx dy bit))

/-- The label of a row: every fifth one from the bottom names the count that its lower edge is at,
`most` being the highest. -/
def countLabel (layout : Layout) (most row : Nat) : String :=
  if (layout.plotHeight - row - 1) % 5 == 0 then
    let height := layout.plotHeight * layout.mode.cellHeight
    let value := most - (row + 1) * layout.mode.cellHeight * most / height
    Text.padLeft 4 ' ' (Text.abbreviated value) ++ " "
  else blanks countLabelWidth

def plotGlyphs (layout : Layout) (bitmap : Bitmap) (row : Nat) : List Char :=
  (List.range layout.plotWidth).map fun column =>
    layout.mode.glyph (cellBits layout.mode bitmap column row)

def plotLine (layout : Layout) (most : Nat) (bitmap : Bitmap) (row : Nat) : String :=
  (if layout.hasCountLabels then layout.countLabel most row else "") ++
    (if layout.hasBorder then layout.mode.border.1.toString else "") ++
    String.ofList (layout.plotGlyphs bitmap row)

def borderLine (layout : Layout) : String :=
  let (_, corner, bottom) := layout.mode.border
  (if layout.hasCountLabels then blanks countLabelWidth else "") ++ corner.toString ++
    String.ofList (List.replicate layout.plotWidth bottom)

def timeLabel (layout : Layout) (t : Time.DateTime) : String :=
  if layout.plotWidth < 40 then t.clockText
  else s!"{Time.DateTime.dateText t.localDate} {t.clockText}"

def timeLine (layout : Layout) : String :=
  let start := layout.timeLabel layout.window.start
  let finish := layout.timeLabel layout.window.finish
  (if layout.hasCountLabels then blanks (countLabelWidth + 1) else "") ++ start ++
    blanks (layout.plotWidth - (start.length + finish.length)) ++ finish

def render (layout : Layout) (counts : Array Nat) : List String :=
  let most := peak counts
  let bitmap := layout.bitmap counts
  (List.range layout.plotHeight).map (layout.plotLine most bitmap) ++
    (if layout.hasBorder then [layout.borderLine] else []) ++
    (if layout.hasTimeLabels then [layout.timeLine] else [])

end Layout

end LogQuery.Chart

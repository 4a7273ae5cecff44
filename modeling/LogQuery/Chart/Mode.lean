import LogQuery.Text.ControlPicture

/-! The glyphs that charts are drawn with. Each stands for a small cell of pixels. -/

set_option autoImplicit false

namespace LogQuery.Chart

inductive Mode where
  | classic
  | block
  | quad
  | braille
  deriving DecidableEq, Repr

namespace Mode

def name : Mode → String
  | classic => "classic"
  | block => "block"
  | quad => "quad"
  | braille => "braille"

def all : List Mode := [classic, block, quad, braille]

def ofName? (name : String) : Option Mode :=
  if name == "brailles" then some braille else all.find? (·.name == name)

def unknownMessage (given : String) : String :=
  let known := ", ".intercalate (all.map name)
  s!"unknown chart mode {Text.quoted given}, expected one of {known}"

/-- The bit that each pixel of a cell sets, row by row from the top. -/
def bits : Mode → List (List Nat)
  | classic => [[0], [1]]
  | block => [[0]]
  | quad => [[0, 1], [2, 3]]
  | braille => [[0, 3], [1, 4], [2, 5], [6, 7]]

def cellWidth : Mode → Nat
  | classic | block => 1
  | quad | braille => 2

def cellHeight : Mode → Nat
  | block => 1
  | classic | quad => 2
  | braille => 4

theorem length_bits (mode : Mode) : mode.bits.length = mode.cellHeight := by cases mode <;> rfl

theorem length_of_mem_bits {mode : Mode} {row : List Nat} (h : row ∈ mode.bits) :
    row.length = mode.cellWidth := by
  cases mode <;> simp [bits] at h <;> simp_all [cellWidth]
  · rcases h with rfl | rfl <;> rfl
  · rcases h with rfl | rfl <;> rfl
  · rcases h with rfl | rfl | rfl | rfl <;> rfl

def classicGlyphs : List Char := [' ', '\'', '.', '|']

def blockGlyphs : List Char := [' ', '█']

def quadGlyphs : List Char :=
  [' ', '▘', '▝', '▀', '▖', '▌', '▞', '▛', '▗', '▚', '▐', '▜', '▄', '▙', '▟', '█']

def glyph (mode : Mode) (bits : Nat) : Char :=
  match mode with
  | classic => classicGlyphs.getD (bits % 4) ' '
  | block => blockGlyphs.getD (bits % 2) ' '
  | quad => quadGlyphs.getD (bits % 16) ' '
  | braille => Char.ofNat (0x2800 + bits % 256)

/-- What frames a chart: the left side, the corner and the bottom. -/
def border : Mode → Char × Char × Char
  | classic => ('|', '+', '-')
  | _ => ('┃', '┗', '━')

end Mode

end LogQuery.Chart

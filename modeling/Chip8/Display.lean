import Chip8.Fault

/-!
# Display — 64 by 32 cells that sprites flip

A sprite is a row of bytes, the highest bit leftmost; each set bit flips a cell, and both axes
wrap around.  A draw reports whether it put out a lit cell.
-/

namespace Chip8

/-- The screen, row by row. -/
structure Display where
  cells : Vector Bool 2048

namespace Display

/-- No cell is lit. -/
def blank : Display where
  cells := Vector.replicate 2048 false

/-- The cell in a column and a row, each taken around its axis. -/
def cell (x y : Int) : Fin 2048 :=
  ⟨(y % 32).toNat * 64 + (x % 64).toNat, by omega⟩

/-- Whether the cell in a column and a row is lit. -/
def lit (d : Display) (x y : Int) : Bool := d.cells[cell x y]

/-! ## Drawing -/

/-- A screen in the middle of a draw, and whether a lit cell went out so far. -/
structure Stroke where
  display : Display
  erased : Bool

/-- One bit of a sprite meets one cell. -/
def Stroke.plot (s : Stroke) (x y : Int) (on : Bool) : Stroke :=
  let k := cell x y
  let old := s.display.cells[k]
  { display := { cells := s.display.cells.set k (old != on) }
    erased := s.erased || (old && on) }

/-- One byte of a sprite, from its highest bit down. -/
def Stroke.row (s : Stroke) (x y : Int) (byte : UInt8) : Stroke :=
  (List.range 8).foldl (fun s (bit : Nat) => s.plot (x + bit) y (byte.toNat.testBit (7 - bit))) s

/-- The bytes of a sprite from its first row down. -/
def Stroke.rows (s : Stroke) (x y : Int) : List UInt8 → Stroke
  | [] => s
  | byte :: rest => (s.row x y byte).rows x (y + 1) rest

/-- The screen after a sprite of at most fifteen rows, and whether a lit cell went out. -/
def draw (d : Display) (x y : Int) (sprite : List UInt8) : Except Refusal (Bool × Display) :=
  if sprite.length ≤ 15 then
    let s := Stroke.rows { display := d, erased := false } x y sprite
    .ok (s.erased, s.display)
  else
    .error (.tallSprite sprite.length)

/-! ## Views -/

/-- One byte for each cell, 1 where it is lit. -/
def buffer (d : Display) : List UInt8 :=
  d.cells.toList.map fun on => if on then 1 else 0

/-- The cells as thirty-two rows. -/
def rows (d : Display) : List (List Bool) :=
  (List.range 32).map fun (y : Nat) => (List.range 64).map fun (x : Nat) => d.lit x y

/-- The screen drawn with a mark for each lit cell and a dot for each other. -/
def text (d : Display) : String :=
  "\n".intercalate (d.rows.map fun row =>
    String.ofList (row.map fun on => if on then '#' else '.'))

/-- The number of lit cells. -/
def litCount (d : Display) : Nat := d.cells.toList.count true

end Display

end Chip8

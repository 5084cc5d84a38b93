import Chip8.Machine.Readout

/-!
# Window/Panel — one label for each register

A panel is empty until it is set up for the registers of a machine.  Every label shows the name of
its register and its value in hexadecimal, in as many digits as its bits need.
-/

namespace Chip8

/-- The families of fonts in which every character has one width, the best first. -/
def preferredFonts : List Text := ["Consolas", "Menlo", "DejaVu Sans Mono"]

/-- The family to write registers in: the best one installed, or the given fixed one. -/
def chooseFont (installed : List Text) (fixed : Text) : Text :=
  (preferredFonts.find? installed.contains).getD fixed

/-- The label of a register. -/
structure Label where
  name : String
  /-- The number of hexadecimal digits. -/
  digits : Nat
  text : String
  deriving DecidableEq, Repr

namespace Label

/-- The text of a label for a value. -/
def textFor (name : String) (digits : Nat) (value : Int) : String :=
  s!"{name}: 0x{Hex.text digits value}"

/-- The label of a register that shows zero. -/
def ofRegister (r : RegisterInfo) : Label :=
  let digits := (r.width + 3) / 4
  { name := r.name, digits, text := textFor r.name digits 0 }

/-- The label with a new value. -/
def update (l : Label) (value : Int) : Label := { l with text := textFor l.name l.digits value }

end Label

/-- The labels of a window, in groups with a title. -/
structure Panel where
  font : Text
  groups : List (String × List Label)
  deriving DecidableEq, Repr

namespace Panel

/-- A panel without labels. -/
def empty (font : Text) : Panel where
  font := font
  groups := []

/-- The panel with a label for each register. -/
def setUp (p : Panel) : Panel :=
  { p with groups := registerLayout.map fun g => (g.title, g.registers.map Label.ofRegister) }

/-- The labels in order. -/
def labels (p : Panel) : List Label := p.groups.flatMap Prod.snd

/-- The panel with every register's present value. -/
def refresh (p : Panel) (m : Machine) : Panel :=
  let values := m.registerMap
  { p with
    groups := p.groups.map fun (title, labels) =>
      (title, labels.map fun l => (values.lookup l.name).elim l l.update) }

/-- The text of the label of a register. -/
def text? (p : Panel) (name : Text) : Option String :=
  (p.labels.find? fun l => Text.ofString l.name == name).map Label.text

/-- The style of the labels. -/
def style (p : Panel) : Text :=
  "font-family: '" ++ p.font ++ "', monospace; color: #FFD700;"

/-- The row and the column of a label in its group, of four columns. -/
def position (index : Nat) : Nat × Nat := (index / 4, index % 4)

end Panel

end Chip8

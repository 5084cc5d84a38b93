import Chip8.Machine

/-!
# Machine/Readout — the registers by name, for display

`Machine.registerMap` gives every register its value and `registerLayout` says how the registers
are grouped and how many bits each has; both name the same twenty-one registers.
-/

namespace Chip8

/-- A register as a panel shows it. -/
structure RegisterInfo where
  name : String
  /-- The number of bits. -/
  width : Nat
  deriving DecidableEq, Repr

/-- A group of registers under a title. -/
structure RegisterGroup where
  title : String
  registers : List RegisterInfo
  deriving DecidableEq, Repr

/-- The name of a byte register. -/
def registerName (n : Nat) : String := "V" ++ Hex.text 0 n

/-- The groups of registers, in the order of display. -/
def registerLayout : List RegisterGroup :=
  [{ title := "Data", registers := (List.range 16).map fun n => ⟨registerName n, 8⟩ },
   { title := "Address/Timers"
     registers := [⟨"I", 16⟩, ⟨"PC", 16⟩, ⟨"SP", 8⟩, ⟨"DT", 8⟩, ⟨"ST", 8⟩] }]

namespace Machine

/-- Every register's name and value. -/
def registerMap (m : Machine) : List (String × Int) :=
  let regs := m.state.registers
  ((List.range 16).map registerName).zip regs.toList ++
    [("I", regs.i), ("DT", regs.delay), ("ST", regs.sound), ("PC", m.counter),
     ("SP", m.state.stack.depth)]

end Machine

end Chip8

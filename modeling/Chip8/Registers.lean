import Chip8.Fault
import Chip8.Nibble

/-!
# Registers — sixteen byte registers, the address register and two timers

The byte registers are reached by number, and a number outside 0..15 is a fault.  The address
register and the timers are plain values that their owner assigns.
-/

namespace Chip8

/-- The register file. -/
structure Registers where
  /-- The byte registers `V0` to `VF`. -/
  data : Bank UInt8
  /-- The address register. -/
  i : Int
  /-- The delay timer. -/
  delay : Int
  /-- The sound timer. -/
  sound : Int

namespace Registers

/-- Every register holds zero. -/
def zero : Registers where
  data := Bank.filled 0
  i := 0
  delay := 0
  sound := 0

/-- The byte register of a number. -/
def index (r : Int) : Except Failure Nibble :=
  match Nibble.ofInt? r with
  | some k => .ok k
  | none => .error (Fault.invalidRegister r).raised

/-- The value of a byte register. -/
def read (regs : Registers) (r : Int) : Except Failure Int := do
  let k ← index r
  return (regs.data.read k).toNat

/-- A byte register with a new value, of which the low byte is kept. -/
def write (regs : Registers) (r value : Int) : Except Failure Registers := do
  let k ← index r
  return { regs with data := regs.data.write k (UInt8.ofInt value) }

/-- The last byte register, which arithmetic and drawing use as a flag. -/
def flag (regs : Registers) : Int := (regs.data.read 15).toNat

/-- The byte registers in order. -/
def toList (regs : Registers) : List Int :=
  regs.data.toList.map fun b => (b.toNat : Int)

end Registers

end Chip8

import Chip8.Memory.Device

/-!
# Memory — the address space of 4096 bytes and the program counter

Addresses 0x000..0x1FF are a device that is only read and begins with the font; addresses
0x200..0xFFF are the program region, which starts as the program image.  The counter is kept as
an offset into the program region and shown as an address; a skip may take it past the end.
-/

namespace Chip8

/-- The number of bytes in the program region. -/
def programSize : Nat := 0xE00

/-- The sprites of the sixteen hexadecimal digits, five rows each. -/
def font : Array UInt8 := #[
  0xF0, 0x90, 0x90, 0x90, 0xF0,
  0x20, 0x60, 0x20, 0x20, 0x70,
  0xF0, 0x10, 0xF0, 0x80, 0xF0,
  0xF0, 0x10, 0xF0, 0x10, 0xF0,
  0x90, 0x90, 0xF0, 0x10, 0x10,
  0xF0, 0x80, 0xF0, 0x10, 0xF0,
  0xF0, 0x80, 0xF0, 0x90, 0xF0,
  0xF0, 0x10, 0x20, 0x40, 0x40,
  0xF0, 0x90, 0xF0, 0x90, 0xF0,
  0xF0, 0x90, 0xF0, 0x10, 0xF0,
  0xF0, 0x90, 0xF0, 0x90, 0x90,
  0xE0, 0x90, 0xE0, 0x90, 0xE0,
  0xF0, 0x80, 0x80, 0x80, 0xF0,
  0xE0, 0x90, 0x90, 0x90, 0xE0,
  0xF0, 0x80, 0xF0, 0x80, 0xF0,
  0xF0, 0x80, 0xF0, 0x80, 0x80]

/-- The main memory with its program counter. -/
structure Memory where
  interpreter : Device 0x200
  program : Device 0xE00
  /-- The number of whole words in the program image. -/
  words : Nat
  /-- The program counter, as an offset into the program region. -/
  counter : Int

namespace Memory

/-- The memory with a program image, cut to the program region, and the counter at its start. -/
def load (image : Array UInt8) : Memory where
  interpreter := Device.ofContents 0x200 "512" true font
  program := Device.ofContents 0xE00 "3584" false image
  words := min image.size programSize / 2
  counter := 0

/-! ## Single addresses -/

/-- Where an address lies, as an offset into its region. -/
inductive Place
  | interpreter (offset : Int)
  | program (offset : Int)

/-- The place of an address. -/
def locate (address : Int) : Except Failure Place :=
  if 0 ≤ address ∧ address < 0x1000 then
    if address < 0x200 then .ok (.interpreter address) else .ok (.program (address - 0x200))
  else
    .error (.fault (.invalidAddress address))

/-- The byte at an address. -/
def read (m : Memory) (address : Int) : Except Failure UInt8 := do
  match ← locate address with
  | .interpreter o => m.interpreter.read o
  | .program o => m.program.read o

/-- The memory with the low byte of `value` at an address. -/
def write (m : Memory) (address value : Int) : Except Failure Memory := do
  match ← locate address with
  | .interpreter o => return { m with interpreter := ← m.interpreter.write o (value % 0x100) }
  | .program o => return { m with program := ← m.program.write o (value % 0x100) }

/-- The bytes from `start` up to but not including `stop`, all within one region. -/
def slice (m : Memory) (start stop : Int) : Except Failure (List UInt8) :=
  if 0 ≤ start ∧ start ≤ stop ∧ stop ≤ 0x1000 then
    if stop ≤ 0x200 then m.interpreter.slice start stop
    else if 0x200 ≤ start then m.program.slice (start - 0x200) (stop - 0x200)
    else .error (.fault (.straddlingRange start stop))
  else
    .error (.fault (.invalidRange start stop))

/-- All bytes in the order of their addresses. -/
def toList (m : Memory) : List UInt8 :=
  m.interpreter.cells.toList ++ m.program.cells.toList

/-! ## Words and the counter -/

/-- The word of two bytes, the first being the high one. -/
def word (high low : UInt8) : Int := 256 * high.toNat + low.toNat

/-- The word at an address, wherever the counter is. -/
def peek (m : Memory) (address : Int) : Except Failure Int := do
  let high ← m.read address
  let low ← m.read (address + 1)
  return word high low

/-- The word at the counter and the memory with the counter behind it, or nothing where fewer
than two bytes are left. -/
def fetch (m : Memory) : Except Failure (Option (Int × Memory)) :=
  if m.counter + 2 > 0xE00 then .ok none
  else do
    let high ← m.program.read m.counter
    let low ← m.program.read (m.counter + 1)
    return some (word high low, { m with counter := m.counter + 2 })

/-- The counter as an address. -/
def counterAddress (m : Memory) : Int := m.counter + 0x200

/-- The memory with its counter at an address of the program region. -/
def jump (m : Memory) (address : Int) : Except Failure Memory :=
  if 0x200 ≤ address ∧ address < 0x1000 then .ok { m with counter := address - 0x200 }
  else .error (.fault (.outsideProgram address))

/-- The memory with its counter one word further, wherever that is. -/
def skip (m : Memory) : Memory := { m with counter := m.counter + 2 }

end Memory

end Chip8

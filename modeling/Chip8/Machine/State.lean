import Chip8.CallStack
import Chip8.Display
import Chip8.Generator
import Chip8.Memory
import Chip8.Registers

/-!
# Machine/State — everything that an instruction can see or change

`State` holds the parts, and `Action` is a computation on it that may fail: what it did before a
failure stays done.
-/

namespace Chip8

/-- The parts of a machine that instructions work on. -/
structure State where
  memory : Memory
  registers : Registers
  stack : CallStack
  display : Display
  /-- Which keys are held down. -/
  keys : Bank Bool
  /-- The register that the next key press goes to, while the machine waits for one. -/
  awaiting : Option Nibble
  generator : Generator

namespace State

/-- The state in which a program image is loaded and nothing has run. -/
def initial (image : Array UInt8) (generator : Generator) : State where
  memory := Memory.load image
  registers := Registers.zero
  stack := CallStack.empty
  display := Display.blank
  keys := Bank.filled false
  awaiting := none
  generator := generator

/-- The key of a code. -/
def key (code : Int) : Except Failure Nibble :=
  match Nibble.ofInt? code with
  | some k => .ok k
  | none => .error (Fault.invalidKey code).raised

/-- Whether the key of a code is held down. -/
def isPressed (s : State) (code : Int) : Except Failure Bool := do
  let k ← key code
  return s.keys.read k

end State

/-- A computation on a state whose effects stay when it fails. -/
abbrev Action := ExceptT Failure (StateM State)

namespace Action

/-- A value, or the failure that takes its place. -/
def ofResult {α : Type} : Except Failure α → Action α
  | .ok a => pure a
  | .error e => throw e

/-- A value, or the fault that takes its place. -/
def ofFault {α : Type} : Except Fault α → Action α
  | .ok a => pure a
  | .error f => throw (.fault f)

/-- A value, or the refusal that takes its place. -/
def ofRefusal {α : Type} : Except Refusal α → Action α
  | .ok a => pure a
  | .error r => throw (.refusal r)

/-- The value of a byte register. -/
def readRegister (x : Int) : Action Int := do
  ofResult ((← get).registers.read x)

/-- Puts the low byte of a value into a byte register. -/
def writeRegister (x value : Int) : Action Unit := do
  let registers ← ofResult ((← get).registers.write x value)
  modify fun s => { s with registers }

/-- Puts one or zero into the flag register. -/
def writeFlag (on : Bool) : Action Unit :=
  writeRegister 15 (if on then 1 else 0)

/-- Changes the register file as a whole. -/
def modifyRegisters (f : Registers → Registers) : Action Unit :=
  modify fun s => { s with registers := f s.registers }

/-- The byte at an address. -/
def readMemory (address : Int) : Action Int := do
  return (← ofResult ((← get).memory.read address)).toNat

/-- Puts the low byte of a value at an address. -/
def writeMemory (address value : Int) : Action Unit := do
  let memory ← ofResult ((← get).memory.write address value)
  modify fun s => { s with memory }

/-- Sends the counter to an address. -/
def jump (address : Int) : Action Unit := do
  let memory ← ofResult ((← get).memory.jump address)
  modify fun s => { s with memory }

/-- Passes over the next instruction where a condition holds. -/
def skipIf (condition : Bool) : Action Unit :=
  if condition then modify fun s => { s with memory := s.memory.skip } else pure ()

end Action

end Chip8

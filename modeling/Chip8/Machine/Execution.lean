import Chip8.Instruction
import Chip8.Machine.State

/-!
# Machine/Execution — what each instruction does

`Instruction.execute` gives every instruction its action.  Operands are read before anything is
written, and arithmetic writes the flag before the result, so that a result sent to `VF` replaces
the flag.
-/

namespace Chip8

namespace Action

/-- The result of arithmetic behind its flag. -/
def settle (x : Int) (flag : Bool) (result : Int) : Action Unit := do
  writeFlag flag
  writeRegister x result

/-- Writes `V0` to `Vx` to the addresses from `I` on. -/
def storeFrom : Nat → Nat → Action Unit
  | _, 0 => pure ()
  | r, n + 1 => do
    let value ← readRegister r
    writeMemory ((← get).registers.i + r) value
    storeFrom (r + 1) n

/-- Loads `V0` to `Vx` from the addresses from `I` on. -/
def loadFrom : Nat → Nat → Action Unit
  | _, 0 => pure ()
  | r, n + 1 => do
    let value ← readMemory ((← get).registers.i + r)
    writeRegister r value
    loadFrom (r + 1) n

/-- Flips the cells of the sprite that lies at `I`, and flags a lit cell that went out. -/
def drawSprite (x y rows : Int) : Action Unit := do
  let start := (← get).registers.i
  let sprite ← ofResult ((← get).memory.slice start (start + rows))
  let column ← readRegister x
  let row ← readRegister y
  let (erased, display) ← ofRefusal ((← get).display.draw column row sprite)
  modify fun s => { s with display }
  writeFlag erased

/-- Goes on until a key is pressed, which will be put into the register. -/
def awaitKey (x : Int) : Action Unit := do
  let k ← ofResult (Registers.index x)
  modify fun s => { s with awaiting := some k }

end Action

open Chip8.Action in
/-- The action of an instruction. -/
def Instruction.execute : Instruction → Action Unit
  | clearScreen => modify fun s => { s with display := Display.blank }
  | ret => do
    let (address, stack) ← ofFault (← get).stack.pop
    modify fun s => { s with stack }
    Action.jump address
  | jump address => Action.jump address
  | call address => do
    let stack ← ofFault ((← get).stack.push (← get).memory.counterAddress)
    modify fun s => { s with stack }
    Action.jump address
  | jumpFromOffset address => do Action.jump ((← readRegister 0) + address)
  | skipIfEqualData x data => do skipIf ((← readRegister x) == data)
  | skipIfNotEqualData x data => do skipIf ((← readRegister x) != data)
  | skipIfEqualRegister x y => do
    let a ← readRegister x
    let b ← readRegister y
    skipIf (a == b)
  | skipIfNotEqualRegister x y => do
    let a ← readRegister x
    let b ← readRegister y
    skipIf (a != b)
  | loadData x data => writeRegister x data
  | addData x data => do writeRegister x ((← readRegister x) + data)
  | loadRegister x y => do writeRegister x (← readRegister y)
  | or x y => do
    let a ← readRegister x
    let b ← readRegister y
    writeRegister x (a.toNat ||| b.toNat)
  | and x y => do
    let a ← readRegister x
    let b ← readRegister y
    writeRegister x (a.toNat &&& b.toNat)
  | xor x y => do
    let a ← readRegister x
    let b ← readRegister y
    writeRegister x (a.toNat ^^^ b.toNat)
  | add x y => do
    let a ← readRegister x
    let b ← readRegister y
    settle x (a + b > 0xFF) (a + b)
  | sub x y => do
    let a ← readRegister x
    let b ← readRegister y
    settle x (a > b) (a - b)
  | negatedSub x y => do
    let a ← readRegister x
    let b ← readRegister y
    settle x (b > a) (b - a)
  | shiftRight x => do
    let a ← readRegister x
    settle x (a % 2 == 1) (a / 2)
  | shiftLeft x => do
    let a ← readRegister x
    settle x (a / 0x80 == 1) (2 * a)
  | setAddressRegister address => modifyRegisters fun regs => { regs with i := address }
  | random x data => do
    let (value, generator) := (← get).generator.between 0 0xFF
    modify fun s => { s with generator }
    writeRegister x (value.toNat &&& (data % 0x100).toNat)
  | draw x y rows => drawSprite x y rows
  | skipIfPressed x => do
    let code ← readRegister x
    skipIf (← ofResult ((← get).isPressed code))
  | skipIfNotPressed x => do
    let code ← readRegister x
    skipIf !(← ofResult ((← get).isPressed code))
  | loadDelayTimer x => do writeRegister x (← get).registers.delay
  | awaitKeyPress x => awaitKey x
  | setDelayTimer x => do
    let value ← readRegister x
    modifyRegisters fun regs => { regs with delay := value }
  | setSoundTimer _ => pure ()
  | addAddressRegister x => do
    let value ← readRegister x
    modifyRegisters fun regs => { regs with i := (regs.i + value) % 0x10000 }
  | loadFontSprite x => do
    let value ← readRegister x
    modifyRegisters fun regs => { regs with i := 5 * (value % 0x10) }
  | storeBcd x => do
    let value ← readRegister x
    let start := (← get).registers.i
    writeMemory start (value / 100)
    writeMemory (start + 1) (value / 10 % 10)
    writeMemory (start + 2) (value % 10)
  | storeRegisters x => storeFrom 0 (x + 1).toNat
  | readRegisters x => loadFrom 0 (x + 1).toNat
  | noOp _ => pure ()
  | unknown opcode => throw (.fault (.unknownOpcode opcode))

end Chip8

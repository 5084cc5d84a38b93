import Chip8.Fault
import Chip8.Instruction

/-!
# Instruction/Decoding — from a sixteen-bit word to its instruction

A word is read from its top nibble down: `Opcode` names its bit fields, `Instruction.decode`
chooses the variant, and `Instruction.decode?` takes only words of sixteen bits.
-/

namespace Chip8

/-! ## Bit fields

For a negative word the fields are those of its two's complement, which Euclidean division
gives. -/

namespace Opcode

/-- The low twelve bits. -/
def address (w : Int) : Int := w % 0x1000

/-- The second nibble from the top, which names a register. -/
def high (w : Int) : Int := w / 0x100 % 0x10

/-- The third nibble from the top, which names a register. -/
def low (w : Int) : Int := w / 0x10 % 0x10

/-- The low byte. -/
def data (w : Int) : Int := w % 0x100

/-- The lowest nibble. -/
def nibble (w : Int) : Int := w % 0x10

/-- The top nibble, which selects the group of instructions. -/
def group (w : Int) : Int := w / 0x1000

end Opcode

/-! ## Groups -/

namespace Instruction

open Opcode

/-- Group 0: the low byte alone decides, so that `0nE0` clears the screen for every `n`. -/
def decodeSystem (w : Int) : Instruction :=
  if data w = 0xE0 then clearScreen
  else if data w = 0xEE then ret
  else noOp w

/-- Group 8: the lowest nibble chooses the operation on two registers, or a shift of one. -/
def decodeArithmetic (w : Int) : Instruction :=
  match (nibble w).toNat with
  | 0x0 => loadRegister (high w) (low w)
  | 0x1 => or (high w) (low w)
  | 0x2 => and (high w) (low w)
  | 0x3 => xor (high w) (low w)
  | 0x4 => add (high w) (low w)
  | 0x5 => sub (high w) (low w)
  | 0x6 => shiftRight (high w)
  | 0x7 => negatedSub (high w) (low w)
  | 0xE => shiftLeft (high w)
  | _ => unknown w

/-- Group E: skips on the state of a key. -/
def decodeKey (w : Int) : Instruction :=
  if data w = 0x9E then skipIfPressed (high w)
  else if data w = 0xA1 then skipIfNotPressed (high w)
  else unknown w

/-- Group F: timers, keys, the address register and memory transfers. -/
def decodeMisc (w : Int) : Instruction :=
  match (data w).toNat with
  | 0x07 => loadDelayTimer (high w)
  | 0x0A => awaitKeyPress (high w)
  | 0x15 => setDelayTimer (high w)
  | 0x18 => setSoundTimer (high w)
  | 0x1E => addAddressRegister (high w)
  | 0x29 => loadFontSprite (high w)
  | 0x33 => storeBcd (high w)
  | 0x55 => storeRegisters (high w)
  | 0x65 => readRegisters (high w)
  | _ => unknown w

/-- The instruction of a word of sixteen bits; one that fits no pattern is `unknown`. -/
def decode (w : Int) : Instruction :=
  match (group w).toNat with
  | 0x0 => decodeSystem w
  | 0x1 => jump (address w)
  | 0x2 => call (address w)
  | 0x3 => skipIfEqualData (high w) (data w)
  | 0x4 => skipIfNotEqualData (high w) (data w)
  | 0x5 => if nibble w = 0 then skipIfEqualRegister (high w) (low w) else unknown w
  | 0x6 => loadData (high w) (data w)
  | 0x7 => addData (high w) (data w)
  | 0x8 => decodeArithmetic w
  | 0x9 => if nibble w = 0 then skipIfNotEqualRegister (high w) (low w) else unknown w
  | 0xA => setAddressRegister (address w)
  | 0xB => jumpFromOffset (address w)
  | 0xC => random (high w) (data w)
  | 0xD => draw (high w) (low w) (nibble w)
  | 0xE => decodeKey w
  | _ => decodeMisc w

/-- The instruction of an integer, if it is a word of sixteen bits. -/
def decode? (w : Int) : Except Refusal Instruction :=
  if 0 ≤ w ∧ w ≤ 0xFFFF then .ok (decode w) else .error (.wideOpcode w)

end Instruction

end Chip8

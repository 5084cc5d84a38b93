import Chip8.Decimal.Limit
import Chip8.Text
import Chip8.Text.Hex

/-!
# Fault — what stops a machine, and what a call refuses

A `Fault` is an error of the running program, from which the machine cannot go on by itself.  A
`Refusal` is an argument that a call does not take.  `Failure` is either, and each has one
`message`.  A fault whose message would show an integer with too many decimal digits has no
message: what a call fails with in its place is a refusal (`Fault.raised`).
-/

namespace Chip8

/-- An error of the running program. -/
inductive Fault
  /-- A register number outside 0..15. -/
  | invalidRegister (index : Int)
  /-- Something that is no integer stands for a register; it is kept as it is shown. -/
  | noRegister (shown : Text)
  /-- A jump to a place that is not in the program region. -/
  | outsideProgram (target : Int)
  /-- An address outside the memory. -/
  | invalidAddress (address : Int)
  /-- A range that is reversed or not inside the memory. -/
  | invalidRange (start stop : Int)
  /-- A range that lies on both sides of the border of the two regions. -/
  | straddlingRange (start stop : Int)
  /-- An offset outside its device, whose size is kept as it is shown. -/
  | deviceOffset (offset : Int) (size : String)
  /-- A range that is reversed or not inside its device. -/
  | deviceRange (start stop : Int) (size : String)
  /-- A write to a device that is only read. -/
  | readOnly (offset data : Int)
  /-- A call with every frame in use. -/
  | stackOverflow (address : Int)
  /-- A return with no frame in use. -/
  | stackUnderflow
  /-- A word that is no instruction was executed. -/
  | unknownOpcode (opcode : Int)
  /-- The counter has run past the last whole word. -/
  | programExhausted (counter : Int)
  /-- A key code outside 0..15. -/
  | invalidKey (key : Int)
  /-- Something that is no integer stands for a key; it is kept as it is shown. -/
  | noKey (shown : Text)
  deriving DecidableEq, Repr

/-- An argument that a call does not take. -/
inductive Refusal
  /-- A word of more than sixteen bits, or a negative one. -/
  | wideOpcode (opcode : Int)
  /-- A device size that is no positive integer. -/
  | deviceSize
  /-- A device of more bytes than can be counted. -/
  | countlessSize
  /-- A device of more bytes than there is room for. -/
  | noRoom
  /-- Contents that do not fit their device, whose size is kept as it is shown. -/
  | longContents (length : Nat) (size : String)
  /-- Data that is no byte. -/
  | wideData (data : Int)
  /-- A sprite of more than fifteen rows. -/
  | tallSprite (rows : Nat)
  /-- A clock speed that is not positive, as it is shown. -/
  | clockSpeed (shown : String)
  /-- An elapsed time below zero. -/
  | negativeElapsed (micros : Int)
  /-- A time or speed that is not a number where a whole number is needed. -/
  | notANumber
  /-- An infinite time or speed where a whole number is needed. -/
  | infinite
  /-- A span of more days than a span can have. -/
  | longSpan (days : Int)
  /-- A screen buffer of the wrong length. -/
  | bufferSize (length : Nat)
  /-- A program image without a byte. -/
  | emptyImage (source : Text)
  /-- A key of a kind that has no order with the integers. -/
  | unorderedKey (kind : String)
  /-- A key that is a number but no integer. -/
  | fractionalKey
  /-- An integer that a fault would show and that has too many digits. -/
  | longNumber
  deriving DecidableEq, Repr

/-- Why a call failed. -/
inductive Failure
  | fault (cause : Fault)
  | refusal (cause : Refusal)
  deriving DecidableEq, Repr

namespace Fault

/-- The wording of a fault. -/
def message : Fault → Text
  | invalidRegister r => s!"Invalid register index: {r}"
  | noRegister shown => "Invalid register index: " ++ shown
  | outsideProgram a => s!"Program counter 0x{Hex.text 4 a} outside program region"
  | invalidAddress a => s!"Invalid memory access at address 0x{Hex.text 4 a}"
  | invalidRange s e => s!"Invalid memory range 0x{Hex.text 4 s}..0x{Hex.text 4 e}"
  | straddlingRange s e =>
    s!"Range 0x{Hex.text 4 s}..0x{Hex.text 4 e} spans the interpreter and program regions"
  | deviceOffset o n => s!"Offset {o} out of bounds for device of size {n}."
  | deviceRange s e n => s!"Range {s}..{e} out of bounds for device of size {n}."
  | readOnly o d => s!"Write of 0x{Hex.text 2 d} to read-only offset 0x{Hex.text 3 o}"
  | stackOverflow a => s!"Stack overflow pushing 0x{Hex.text 4 a}"
  | stackUnderflow => "Attempted pop from empty stack"
  | unknownOpcode w => s!"Unknown instruction encountered: 0x{Hex.text 4 w}"
  | programExhausted p => s!"End of ROM reached at 0x{Hex.text 4 p}"
  | invalidKey k => s!"Invalid key code: {k}"
  | noKey shown => "Invalid key code: " ++ shown

/-- Whether the wording shows an integer with too many decimal digits; hexadecimal ones have no
limit. -/
def hasLongNumber : Fault → Bool
  | invalidRegister r => Decimal.isLong r
  | deviceOffset o _ => Decimal.isLong o
  | deviceRange s e _ => Decimal.isLong s || Decimal.isLong e
  | invalidKey k => Decimal.isLong k
  | _ => false

/-- What a call fails with at a fault. -/
def raised (f : Fault) : Failure :=
  if f.hasLongNumber then .refusal .longNumber else .fault f

end Fault

namespace Refusal

/-- The wording of a refusal. -/
def message : Refusal → Text
  | wideOpcode w =>
    if Decimal.isLong w then Decimal.tooLong else s!"Opcode {w} is not a 16-bit value."
  | deviceSize => "RAM size must be a positive integer."
  | countlessSize => "cannot fit 'int' into an index-sized integer"
  | noRoom => ""
  | longContents n size => s!"Initial data ({n} bytes) exceeds RAM size {size}."
  | wideData d => if Decimal.isLong d then Decimal.tooLong else s!"Data {d} is not an 8-bit value."
  | tallSprite n => s!"Sprite has {n} rows, maximum is 15."
  | clockSpeed shown => s!"Clock speed must be positive, got {shown}."
  | negativeElapsed m =>
    if Decimal.isLong m then Decimal.tooLong
    else s!"Elapsed time must not be negative, got {m}us."
  | notANumber => "cannot convert float NaN to integer"
  | infinite => "cannot convert float infinity to integer"
  | longSpan d =>
    if -0x80000000 ≤ d ∧ d < 0x80000000 then s!"days={d}; must have magnitude <= 999999999"
    else "Python int too large to convert to C int"
  | bufferSize n => s!"Display buffer must have 2048 cells, got {n}"
  | emptyImage source => "ROM image " ++ source ++ " is empty."
  | unorderedKey kind => "'<=' not supported between instances of 'int' and '" ++ kind ++ "'"
  | fractionalKey => "list indices must be integers or slices, not float"
  | longNumber => Decimal.tooLong

end Refusal

namespace Failure

/-- The wording of a failure. -/
def message : Failure → Text
  | fault f => f.message
  | refusal r => r.message

end Failure

end Chip8

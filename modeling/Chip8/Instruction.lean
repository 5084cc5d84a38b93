import Chip8.Text.Hex

/-!
# Instruction — the thirty-six instructions and how they are written

An operand is any integer: a decoded word gives operands that fit their field, while a
hand-made instruction may carry others.  `fields` lists the operands in order, and `text`,
`record` and `name` are the three written forms.
-/

namespace Chip8

/-- What an operand means. -/
inductive Field
  | x | y | data | address | rows | opcode
  deriving DecidableEq, Repr

/-- An instruction of the machine. -/
inductive Instruction
  | clearScreen
  | ret
  | jump (address : Int)
  | call (address : Int)
  | jumpFromOffset (address : Int)
  | skipIfEqualData (x data : Int)
  | skipIfNotEqualData (x data : Int)
  | skipIfEqualRegister (x y : Int)
  | skipIfNotEqualRegister (x y : Int)
  | loadData (x data : Int)
  | addData (x data : Int)
  | loadRegister (x y : Int)
  | or (x y : Int)
  | and (x y : Int)
  | xor (x y : Int)
  | add (x y : Int)
  | sub (x y : Int)
  | shiftRight (x : Int)
  | negatedSub (x y : Int)
  | shiftLeft (x : Int)
  | setAddressRegister (address : Int)
  | random (x data : Int)
  | draw (x y rows : Int)
  | skipIfPressed (x : Int)
  | skipIfNotPressed (x : Int)
  | loadDelayTimer (x : Int)
  | awaitKeyPress (x : Int)
  | setDelayTimer (x : Int)
  | setSoundTimer (x : Int)
  | addAddressRegister (x : Int)
  | loadFontSprite (x : Int)
  | storeBcd (x : Int)
  | storeRegisters (x : Int)
  | readRegisters (x : Int)
  | noOp (opcode : Int)
  | unknown (opcode : Int)
  deriving DecidableEq, Repr

namespace Field

/-- The word a field is called by. -/
def name : Field → String
  | x => "x"
  | y => "y"
  | data => "data"
  | address => "address"
  | rows => "rows"
  | opcode => "opcode"

/-- An operand in assembly: a register after `V`, data after `#`, an address or a word after a
dollar sign, and a row count in decimal. -/
def operand : Field → Int → String
  | x, n => "V" ++ Hex.text 0 n
  | y, n => "V" ++ Hex.text 0 n
  | data, n => "#" ++ Hex.text 2 n
  | address, n => "$" ++ Hex.text 3 n
  | opcode, n => "$" ++ Hex.text 4 n
  | rows, n => toString n

end Field

namespace Instruction

/-- The operands, each under its field, in order. -/
def fields : Instruction → List (Field × Int)
  | clearScreen => []
  | ret => []
  | jump a => [(.address, a)]
  | call a => [(.address, a)]
  | jumpFromOffset a => [(.address, a)]
  | skipIfEqualData x d => [(.x, x), (.data, d)]
  | skipIfNotEqualData x d => [(.x, x), (.data, d)]
  | skipIfEqualRegister x y => [(.x, x), (.y, y)]
  | skipIfNotEqualRegister x y => [(.x, x), (.y, y)]
  | loadData x d => [(.x, x), (.data, d)]
  | addData x d => [(.x, x), (.data, d)]
  | loadRegister x y => [(.x, x), (.y, y)]
  | or x y => [(.x, x), (.y, y)]
  | and x y => [(.x, x), (.y, y)]
  | xor x y => [(.x, x), (.y, y)]
  | add x y => [(.x, x), (.y, y)]
  | sub x y => [(.x, x), (.y, y)]
  | shiftRight x => [(.x, x)]
  | negatedSub x y => [(.x, x), (.y, y)]
  | shiftLeft x => [(.x, x)]
  | setAddressRegister a => [(.address, a)]
  | random x d => [(.x, x), (.data, d)]
  | draw x y r => [(.x, x), (.y, y), (.rows, r)]
  | skipIfPressed x => [(.x, x)]
  | skipIfNotPressed x => [(.x, x)]
  | loadDelayTimer x => [(.x, x)]
  | awaitKeyPress x => [(.x, x)]
  | setDelayTimer x => [(.x, x)]
  | setSoundTimer x => [(.x, x)]
  | addAddressRegister x => [(.x, x)]
  | loadFontSprite x => [(.x, x)]
  | storeBcd x => [(.x, x)]
  | storeRegisters x => [(.x, x)]
  | readRegisters x => [(.x, x)]
  | noOp w => [(.opcode, w)]
  | unknown w => [(.opcode, w)]

/-- The name of the variant. -/
def name : Instruction → String
  | clearScreen => "ClearScreen"
  | ret => "Return"
  | jump _ => "Jump"
  | call _ => "Call"
  | jumpFromOffset _ => "JumpFromOffset"
  | skipIfEqualData .. => "SkipIfEqualData"
  | skipIfNotEqualData .. => "SkipIfNotEqualData"
  | skipIfEqualRegister .. => "SkipIfEqualRegister"
  | skipIfNotEqualRegister .. => "SkipIfNotEqualRegister"
  | loadData .. => "LoadData"
  | addData .. => "AddData"
  | loadRegister .. => "LoadRegister"
  | or .. => "Or"
  | and .. => "And"
  | xor .. => "Xor"
  | add .. => "Add"
  | sub .. => "Sub"
  | shiftRight _ => "ShiftRight"
  | negatedSub .. => "NegatedSub"
  | shiftLeft _ => "ShiftLeft"
  | setAddressRegister _ => "SetAddressRegister"
  | random .. => "Random"
  | draw .. => "Draw"
  | skipIfPressed _ => "SkipIfPressed"
  | skipIfNotPressed _ => "SkipIfNotPressed"
  | loadDelayTimer _ => "LoadDelayTimer"
  | awaitKeyPress _ => "AwaitKeyPress"
  | setDelayTimer _ => "SetDelayTimer"
  | setSoundTimer _ => "SetSoundTimer"
  | addAddressRegister _ => "AddAddressRegister"
  | loadFontSprite _ => "LoadFontSprite"
  | storeBcd _ => "StoreBcd"
  | storeRegisters _ => "StoreRegisters"
  | readRegisters _ => "ReadRegisters"
  | noOp _ => "NoOp"
  | unknown _ => "Unknown"

/-- The instruction of a variant's name and its operands in order. -/
def ofName? : String → List Int → Option Instruction
  | "ClearScreen", [] => some clearScreen
  | "Return", [] => some ret
  | "Jump", [a] => some (jump a)
  | "Call", [a] => some (call a)
  | "JumpFromOffset", [a] => some (jumpFromOffset a)
  | "SkipIfEqualData", [x, d] => some (skipIfEqualData x d)
  | "SkipIfNotEqualData", [x, d] => some (skipIfNotEqualData x d)
  | "SkipIfEqualRegister", [x, y] => some (skipIfEqualRegister x y)
  | "SkipIfNotEqualRegister", [x, y] => some (skipIfNotEqualRegister x y)
  | "LoadData", [x, d] => some (loadData x d)
  | "AddData", [x, d] => some (addData x d)
  | "LoadRegister", [x, y] => some (loadRegister x y)
  | "Or", [x, y] => some (or x y)
  | "And", [x, y] => some (and x y)
  | "Xor", [x, y] => some (xor x y)
  | "Add", [x, y] => some (add x y)
  | "Sub", [x, y] => some (sub x y)
  | "ShiftRight", [x] => some (shiftRight x)
  | "NegatedSub", [x, y] => some (negatedSub x y)
  | "ShiftLeft", [x] => some (shiftLeft x)
  | "SetAddressRegister", [a] => some (setAddressRegister a)
  | "Random", [x, d] => some (random x d)
  | "Draw", [x, y, r] => some (draw x y r)
  | "SkipIfPressed", [x] => some (skipIfPressed x)
  | "SkipIfNotPressed", [x] => some (skipIfNotPressed x)
  | "LoadDelayTimer", [x] => some (loadDelayTimer x)
  | "AwaitKeyPress", [x] => some (awaitKeyPress x)
  | "SetDelayTimer", [x] => some (setDelayTimer x)
  | "SetSoundTimer", [x] => some (setSoundTimer x)
  | "AddAddressRegister", [x] => some (addAddressRegister x)
  | "LoadFontSprite", [x] => some (loadFontSprite x)
  | "StoreBcd", [x] => some (storeBcd x)
  | "StoreRegisters", [x] => some (storeRegisters x)
  | "ReadRegisters", [x] => some (readRegisters x)
  | "NoOp", [w] => some (noOp w)
  | "Unknown", [w] => some (unknown w)
  | _, _ => none

/-- The operands as assembly writes them one by one. -/
def operands (i : Instruction) : List String :=
  i.fields.map fun (f, n) => f.operand n

/-- The mnemonic of the variant; loads, skips, additions and jumps of several kinds share one. -/
def mnemonic : Instruction → String
  | clearScreen => "CLS"
  | ret => "RET"
  | jump _ => "JP"
  | call _ => "CALL"
  | jumpFromOffset _ => "JP"
  | skipIfEqualData .. => "SE"
  | skipIfNotEqualData .. => "SNE"
  | skipIfEqualRegister .. => "SE"
  | skipIfNotEqualRegister .. => "SNE"
  | loadData .. => "LD"
  | addData .. => "ADD"
  | loadRegister .. => "LD"
  | or .. => "OR"
  | and .. => "AND"
  | xor .. => "XOR"
  | add .. => "ADD"
  | sub .. => "SUB"
  | shiftRight _ => "SHR"
  | negatedSub .. => "SUBN"
  | shiftLeft _ => "SHL"
  | setAddressRegister _ => "LD"
  | random .. => "RND"
  | draw .. => "DRW"
  | skipIfPressed _ => "SKP"
  | skipIfNotPressed _ => "SKNP"
  | loadDelayTimer _ => "LD"
  | awaitKeyPress _ => "LD"
  | setDelayTimer _ => "LD"
  | setSoundTimer _ => "LD"
  | addAddressRegister _ => "ADD"
  | loadFontSprite _ => "LD"
  | storeBcd _ => "LD"
  | storeRegisters _ => "LD"
  | readRegisters _ => "LD"
  | noOp _ => "SYS"
  | unknown _ => "UNKNOWN"

/-- The operand column of assembly: the operands, and in the forms that name a fixed part of the
machine (`V0`, `I`, `DT`, `ST`, `K`, `F`, `B`, `[I]`) that part beside them. -/
def columns (i : Instruction) : List String :=
  match i, i.operands with
  | jumpFromOffset _, ops => "V0" :: ops
  | setAddressRegister _, ops => "I" :: ops
  | loadDelayTimer _, ops => ops ++ ["DT"]
  | awaitKeyPress _, ops => ops ++ ["K"]
  | setDelayTimer _, ops => "DT" :: ops
  | setSoundTimer _, ops => "ST" :: ops
  | addAddressRegister _, ops => "I" :: ops
  | loadFontSprite _, ops => "F" :: ops
  | storeBcd _, ops => "B" :: ops
  | storeRegisters _, ops => "[I]" :: ops
  | readRegisters _, ops => ops ++ ["[I]"]
  | _, ops => ops

/-- The instruction in assembly: its mnemonic and, after a space, its columns. -/
def text (i : Instruction) : String :=
  match i.columns with
  | [] => i.mnemonic
  | cols => i.mnemonic ++ " " ++ ", ".intercalate cols

/-- The instruction as a record: its name and every operand under its field's name. -/
def record (i : Instruction) : String :=
  i.name ++ "(" ++ ", ".intercalate (i.fields.map fun (f, n) => f.name ++ "=" ++ toString n) ++ ")"

end Instruction

end Chip8

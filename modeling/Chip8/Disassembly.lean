import Chip8.Instruction.Decoding
import Chip8.Machine

/-!
# Disassembly — programs as text, without running them

`Memory.disassemble` reads a range of addresses two bytes at a time, and `Machine.scan` reads the
words of the program image as they now stand.  Neither changes anything.
-/

namespace Chip8

/-- One instruction of a disassembly. -/
structure Line where
  address : Int
  word : Int
  text : String

namespace Line

/-- The word in four hexadecimal digits. -/
def hex (l : Line) : String := Hex.text 4 l.word

end Line

namespace Memory

/-- The lines of a number of words from an address on. -/
def lines (m : Memory) : Nat → Int → Except Failure (List Line)
  | 0, _ => .ok []
  | n + 1, address => do
    let word ← m.peek address
    let rest ← lines m n (address + 2)
    return { address, word, text := (Instruction.decode word).text } :: rest

/-- The lines of a range of addresses, cut at the end of the memory; an odd byte at its end is
left out. -/
def disassemble (m : Memory) (start length : Int) : Except Failure (List Line) :=
  let stop := min (start + length) 0x1000
  m.lines ((stop - start) / 2).toNat start

/-- The words that some fetches in a row give, up to the end of the memory. -/
def fetchMany (m : Memory) : Nat → List Int
  | 0 => []
  | n + 1 =>
    match m.fetch with
    | .ok (some (word, m)) => word :: fetchMany m n
    | _ => []

end Memory

namespace Machine

/-- The words of the program and their instructions, from its start. -/
def scan (m : Machine) : List (Int × Instruction) :=
  let memory := { m.state.memory with counter := 0 }
  (memory.fetchMany memory.words).map fun word => (word, Instruction.decode word)

/-- The lines of a scan, the word before its assembly. -/
def scanLines (m : Machine) : List String :=
  m.scan.map fun (word, i) => s!"0x{Hex.text 4 word} => {i.text}"

end Machine

end Chip8

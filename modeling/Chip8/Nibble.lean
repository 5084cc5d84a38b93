/-!
# Nibble — the sixteen numbers that name a register or a key

A `Bank` holds one value for each nibble, so that reading and writing it cannot fail; what can fail
is to take an integer for a nibble, which is `Nibble.ofInt?`.
-/

namespace Chip8

/-- A number of four bits. -/
abbrev Nibble := Fin 16

/-- The nibble that an integer is, if it is one. -/
def Nibble.ofInt? (n : Int) : Option Nibble :=
  if h : 0 ≤ n ∧ n < 16 then some ⟨n.toNat, by omega⟩ else none

/-- One value for each nibble. -/
abbrev Bank (α : Type) := Vector α 16

namespace Bank

variable {α : Type}

/-- The same value for every nibble. -/
def filled (a : α) : Bank α := Vector.replicate 16 a

/-- The value of a nibble. -/
def read (b : Bank α) (k : Nibble) : α := b[k]

/-- The bank with a new value for a nibble. -/
def write (b : Bank α) (k : Nibble) (a : α) : Bank α := b.set k a

end Bank

end Chip8

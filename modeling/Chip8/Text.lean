/-!
# Text — texts that may hold half a character

What comes from outside can hold one half of a surrogate pair by itself, which no `String` can.  A
`Text` keeps such halves.  All that the program says by itself is a `String`, and every `String` is
a `Text`.
-/

namespace Chip8

/-- A code point: a character, or one half of a surrogate pair. -/
structure CodePoint where
  val : Nat
  val_lt : val < 0x110000
  deriving DecidableEq, Repr

namespace CodePoint

/-- The code point of a character. -/
def ofChar (c : Char) : CodePoint where
  val := c.toNat
  val_lt := by
    have h : c.toNat < 0xD800 ∨ (0xDFFF < c.toNat ∧ c.toNat < 0x110000) := c.valid
    omega

instance : Coe Char CodePoint := ⟨ofChar⟩

/-- Whether a code point is a certain character. -/
def is (p : CodePoint) (c : Char) : Bool := p.val == c.toNat

/-- Whether a code point is one half of a pair. -/
def isHalf (p : CodePoint) : Bool := 0xD800 ≤ p.val && p.val < 0xE000

/-- What stands for a half where only characters can stand. -/
def replacement : Char := Char.ofNat 0xFFFD

/-- The character of a code point, or the replacement for a half. -/
def char (p : CodePoint) : Char := if p.isHalf then replacement else Char.ofNat p.val

/-- The code point of a number; beyond the last one it is the replacement. -/
def ofNat (n : Nat) : CodePoint := if h : n < 0x110000 then ⟨n, h⟩ else ofChar replacement

end CodePoint

/-- A row of code points. -/
abbrev Text := List CodePoint

namespace Text

/-- The text of a row of characters. -/
def ofChars (cs : List Char) : Text := cs.map CodePoint.ofChar

/-- The text of a string. -/
def ofString (s : String) : Text := ofChars s.toList

instance : Coe String Text := ⟨ofString⟩

/-- The characters of a text, with the replacement for each half. -/
def chars (t : Text) : List Char := t.map CodePoint.char

/-- The string that shows a text, with the replacement for each half. -/
def display (t : Text) : String := String.ofList t.chars

/-- The parts of a list between the places of a mark. -/
def pieces {α : Type} [DecidableEq α] (mark : α) : List α → List (List α)
  | [] => [[]]
  | x :: rest =>
    if x = mark then [] :: pieces mark rest
    else match pieces mark rest with
      | [] => [[x]]
      | p :: ps => (x :: p) :: ps

/-! ## Lines -/

/-- Whether a line of output ends at a code point. -/
def endsLine (p : CodePoint) : Bool :=
  (0xA ≤ p.val && p.val ≤ 0xD) || (0x1C ≤ p.val && p.val ≤ 0x1E) || p.val == 0x85 ||
    p.val == 0x2028 || p.val == 0x2029

/-- The lines of a text without their ends; a return and the line feed behind it are one end. -/
def lines : Text → List Text
  | [] => []
  | p :: rest =>
    let more := lines rest
    if p.is '\r' && (rest.head?.map (·.is '\n')).getD false then more
    else if endsLine p then [] :: more
    else match more with
      | [] => [[p]]
      | line :: others => (p :: line) :: others

end Text

end Chip8

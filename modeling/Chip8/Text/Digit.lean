/-!
# Text/Digit — the decimal digits of every script, and the spaces around a number

Each script with decimal digits has ten of them in a row, so the table holds the zeros.  `plain`
brings the text of a number to digits and spaces that a reader of plain numerals knows.
-/

namespace Chip8.Text

/-- The code points of the digits zero, as of version 14 of the character database. -/
def zeros : Array Nat := #[
  48, 1632, 1776, 1984, 2406, 2534, 2662, 2790, 2918, 3046, 3174, 3302, 3430, 3558, 3664, 3792,
  3872, 4160, 4240, 6112, 6160, 6470, 6608, 6784, 6800, 6992, 7088, 7232, 7248, 42528, 43216,
  43264, 43472, 43504, 43600, 44016, 65296, 66720, 68912, 69734, 69872, 69942, 70096, 70384,
  70736, 70864, 71248, 71360, 71472, 71904, 72016, 72784, 73040, 73120, 92768, 92864, 93008,
  120782, 120792, 120802, 120812, 120822, 123200, 123632, 125264, 130032]

/-- The value of a decimal digit of any script. -/
def digit? (c : Char) : Option Nat :=
  (zeros.find? fun base => base ≤ c.toNat && c.toNat < base + 10).map (c.toNat - ·)

/-- The code points of the white space outside the first 128 characters. -/
def wideBlanks : List Nat :=
  [0x85, 0xA0, 0x1680, 0x2000, 0x2001, 0x2002, 0x2003, 0x2004, 0x2005, 0x2006, 0x2007, 0x2008,
    0x2009, 0x200A, 0x2028, 0x2029, 0x202F, 0x205F, 0x3000]

/-- The white space that may stand around a number: the space, the tab, the line ends, the form
feed and the vertical tab. -/
def isBlank (c : Char) : Bool :=
  c == ' ' || (9 ≤ c.toNat && c.toNat ≤ 13)

/-- A character of a number in plain form: a digit of any script as its plain digit, and a wide
space as the space. -/
def plainChar (c : Char) : Char :=
  if c.toNat < 128 then c
  else if wideBlanks.contains c.toNat then ' '
  else match digit? c with
    | some d => Char.ofNat (48 + d)
    | none => c

/-- The text of a number in plain form, without the white space around it. -/
def plain (s : List Char) : List Char :=
  let rest := (s.map plainChar).dropWhile isBlank
  (rest.reverse.dropWhile isBlank).reverse

end Chip8.Text

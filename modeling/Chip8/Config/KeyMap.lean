import Chip8.Text.Uppercase

/-!
# Config/KeyMap — which key of the keyboard is which key of the keypad

A map goes from upper-case key names to codes, in the order in which the names first came; a name
that comes again gets the later code.
-/

namespace Chip8

/-- Codes of the keypad by key name. -/
abbrev KeyMap := List (Text × Int)

namespace KeyMap

/-- The map with a code for a name: a name that is there keeps its place. -/
def put (name : Text) (code : Int) : KeyMap → KeyMap
  | [] => [(name, code)]
  | (n, c) :: rest => if n = name then (n, code) :: rest else (n, c) :: put name code rest

/-- The code of a name. -/
def get? (name : Text) (m : KeyMap) : Option Int :=
  (m.find? fun (n, _) => n == name).map Prod.snd

/-- The code of a typed text, whatever its case; an empty text has none. -/
def code? (m : KeyMap) (text : Text) : Option Int :=
  if text.isEmpty then none else m.get? (Text.uppercase text)

/-- The keypad on the left of the keyboard: four rows of four keys. -/
def standard : KeyMap :=
  [("1", 0x1), ("2", 0x2), ("3", 0x3), ("4", 0xC),
   ("Q", 0x4), ("W", 0x5), ("E", 0x6), ("R", 0xD),
   ("A", 0x7), ("S", 0x8), ("D", 0x9), ("F", 0xE),
   ("Z", 0xA), ("X", 0x0), ("C", 0xB), ("V", 0xF)]

end KeyMap

end Chip8

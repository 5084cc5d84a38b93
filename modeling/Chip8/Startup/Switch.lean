import Chip8.Text

/-!
# Startup/Switch — the switches of the command line

Each switch has spellings with one dash or two, and some take a value.
-/

namespace Chip8

/-- A switch of the command line. -/
inductive Switch
  | help | scan | verbose | clock | config | scale
  deriving DecidableEq, Repr

namespace Switch

/-- The spellings of the switches. -/
def spellings : List (Text × Switch) :=
  [("-h", help), ("--help", help), ("-s", scan), ("--scan", scan), ("-v", verbose),
   ("--verbose", verbose), ("-c", clock), ("--clock", clock), ("--config", config),
   ("--scale", scale)]

/-- Whether a value belongs to a switch. -/
def takesValue : Switch → Bool
  | clock => true
  | config => true
  | scale => true
  | _ => false

/-- The switch of an exact spelling. -/
def ofSpelling? (s : Text) : Option Switch := spellings.lookup s

/-- The switches with a spelling that begins with a text. -/
def beginning (s : Text) : List Switch :=
  (spellings.filter fun (spelling, _) => s.isPrefixOf spelling).map Prod.snd

end Switch

end Chip8

import Chip8.Instruction.Decoding

/-!
# Journal — what the program reports while it runs

A `Note` has a level, a source and a message.  The notes of a run of instructions follow from the
words that were fetched.
-/

namespace Chip8

/-- How weighty a note is. -/
inductive Level
  | debug | info | warning | error
  deriving DecidableEq, Repr

namespace Level

/-- The name of a level. -/
def name : Level → String
  | debug => "DEBUG"
  | info => "INFO"
  | warning => "WARNING"
  | error => "ERROR"

/-- The place of a level among the others, from the lightest up. -/
def rank : Level → Nat
  | debug => 0
  | info => 1
  | warning => 2
  | error => 3

/-- The level of a name. -/
def ofName? : String → Option Level
  | "DEBUG" => some debug
  | "INFO" => some info
  | "WARNING" => some warning
  | "ERROR" => some error
  | _ => none

end Level

/-- The part of the program that a note comes from. -/
inductive Source
  | machine | sound | image | startup | window
  deriving DecidableEq, Repr

namespace Source

/-- The name under which a source reports. -/
def name : Source → String
  | machine => "retro_chip8.arch.chip8.cpu"
  | sound => "retro_chip8.arch.chip8.instructions.load"
  | image => "retro_chip8.loader.loader"
  | startup => "retro_chip8.cli"
  | window => "retro_chip8.ui.main_window"

end Source

/-- One report. -/
structure Note where
  level : Level
  source : Source
  message : Text
  deriving DecidableEq, Repr

namespace Note

/-- A note in words. -/
def text (n : Note) : Text := s!"{n.level.name} [{n.source.name}] " ++ n.message

/-- The notes of a level and above in words. -/
def texts (least : Level) (notes : List Note) : List Text :=
  (notes.filter fun n => least.rank ≤ n.level.rank).map text

/-- The lines that the notes of a level and above take up; one whose message holds line ends takes
up several. -/
def lines (least : Level) (notes : List Note) : List Text :=
  (texts least notes).flatMap fun t => Text.lines (t ++ "\n")

/-- The notes of executing an instruction: sound is not made, and that is said. -/
def ofInstruction : Instruction → List Note
  | .setSoundTimer _ => [⟨.warning, .sound, "Sound is not implemented."⟩]
  | _ => []

/-- The notes of fetching a word and executing its instruction. -/
def ofWord (word : Int) : List Note :=
  let i := Instruction.decode word
  ⟨.debug, .machine, s!"0x{Hex.text 4 word} => {i.text}"⟩ :: ofInstruction i

/-- The notes of a run of fetched words. -/
def ofTrace (trace : List Int) : List Note := trace.flatMap ofWord

/-- The note of a key that went down or up. -/
def ofKey (code : Int) (pressed : Bool) : Note :=
  let shown := if pressed then "True" else "False"
  ⟨.debug, .machine, s!"Key {Hex.text 0 code} is_pressed={shown}"⟩

end Note

end Chip8

import Chip8.Decimal.Reader
import Chip8.Startup.Part

/-!
# Startup/Options — what the command line asks for

One word names the program, and switches stand anywhere around it.  `Options.parse` follows the
parts of the command line in order and stops where help is asked for, and at misuse.
-/

namespace Chip8

/-- What the command line asks for. -/
structure Options where
  program : Text
  scan : Bool
  verbose : Bool
  clock : Option Float
  config : Option Text
  scale : Option Int

namespace Options

/-! ## Following the parts -/

/-- What is known of the options so far. -/
structure Draft where
  program : Option Text
  scan : Bool
  verbose : Bool
  clock : Option Float
  config : Option Text
  scale : Option Int
  /-- Whether something has no place. -/
  surplus : Bool

namespace Draft

/-- Nothing is asked for. -/
def blank : Draft where
  program := none
  scan := false
  verbose := false
  clock := none
  config := none
  scale := none
  surplus := false

/-- Follows a switch with its value, if one belongs to it. -/
def follow (d : Draft) (s : Switch) (value : Text) : Except Stop Draft :=
  match s with
  | .help => .error .help
  | .scan => .ok { d with scan := true }
  | .verbose => .ok { d with verbose := true }
  | .clock =>
    match Decimal.readReal value with
    | .ok x => .ok { d with clock := some x }
    | .error _ => .error .misuse
  | .config => .ok { d with config := some value }
  | .scale =>
    match Decimal.readInt 10 value with
    | .ok n => .ok { d with scale := some n }
    | .error _ => .error .misuse

/-- Follows switches in order; `next` is the value of the last one if none is attached. -/
def followAll (d : Draft) (next : Text) : List (Switch × Option Text) → Except Stop Draft
  | [] => .ok d
  | (s, value) :: rest => do followAll (← d.follow s (value.getD next)) next rest

/-- Takes a word for the program; a second one has no place. -/
def take (d : Draft) (word : Text) : Draft :=
  if d.program.isNone then { d with program := some word } else { d with surplus := true }

end Draft

/-- Follows the parts of a command line in order. -/
def followParts : List Part → Draft → Except Stop Draft
  | [], d => .ok d
  | .stranger :: rest, d => followParts rest { d with surplus := true }
  | .word w :: .separator :: rest, d =>
    if d.program.isNone then followParts rest (d.take w)
    else followParts rest { d with surplus := true }
  | .word w :: rest, d => followParts rest (d.take w)
  | .separator :: .word w :: rest, d =>
    if d.program.isNone then followParts rest (d.take w)
    else followParts rest { d with surplus := true }
  | .separator :: rest, d => followParts rest { d with surplus := true }
  | .switch s short attached :: rest, d => do
    let switches ← Part.joined s short attached
    if Part.needsValue switches then
      match rest with
      | .word value :: rest => followParts rest (← d.followAll value switches)
      | _ => .error .misuse
    else followParts rest (← d.followAll [] switches)

/-- What a command line asks for. -/
def parse (arguments : List Text) : Except Stop Options := do
  let d ← followParts (← Part.ofArguments arguments) Draft.blank
  match d.program, d.surplus with
  | some program, false =>
    return {
      program
      scan := d.scan
      verbose := d.verbose
      clock := d.clock
      config := d.config
      scale := d.scale }
  | _, _ => .error .misuse

/-! ## Where it is not followed -/

/-- The status that a command line ends with where it is not followed. -/
def stopStatus : Stop → Int
  | .help => 0
  | .misuse => 2

/-- The shape of a command line. -/
def usage : String :=
  "usage: retro-chip8 [-h] [-s] [-v] [-c CLOCK_SPEED] [--config CONFIG] [--scale SCALE] " ++
    "PROGRAM_FILE"

/-- What the word and the switches stand for. -/
def help : List String :=
  [usage, "",
   "Yet another CHIP-8 emulator.", "",
   "  PROGRAM_FILE             A CHIP-8 ROM filepath.",
   "  -h, --help               Show this help message and exit.",
   "  -s, --scan               Scan the program only, printing raw opcodes and instructions.",
   "  -v, --verbose            Run the VM with verbose logging to the terminal.",
   "  -c, --clock CLOCK_SPEED  The clock speed to run the CPU at in Hz. Defaults to 700Hz.",
   "  --config CONFIG          YAML configuration file.",
   "  --scale SCALE            Pixel scale of the window."]

end Options

end Chip8

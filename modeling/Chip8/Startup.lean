import Chip8.Config
import Chip8.Disassembly
import Chip8.Image
import Chip8.Startup.Folder
import Chip8.Startup.Options

/-!
# Startup — from the command line to a machine

The settings are read first and the switches put over them, then the program is loaded and a machine
made.  Most failures on the way are reported and end the run with status 2; those that
`Failure.isReported` denies are not foreseen and go further.  The files and the reader of settings
are what a run is given.
-/

namespace Chip8.Startup

/-- Why there is no machine. -/
inductive Failure
  /-- A path cannot be read. -/
  | file (path : Text) (cause : FileError)
  /-- The settings cannot be used. -/
  | settings (cause : Config.Unusable)
  /-- The clock speed of the command line is not positive. -/
  | clock (speed : Float)
  /-- The scale of the command line is not positive. -/
  | scale (n : Int)
  /-- The program or the clock speed is refused. -/
  | machine (cause : Refusal)

namespace Failure

/-- The wording of a failure. -/
def message : Failure → Text
  | file path cause => cause.message path
  | settings (.document cause) => cause.message
  | settings (.invalid cause) => cause.message
  | clock x => s!"Clock speed must be positive, got {Decimal.text x}"
  | scale n => s!"Scale must be positive, got {n}"
  | machine cause => cause.message

/-- Whether a failure is foreseen: settings of the wrong kind, values too deep to be shown and
numbers beyond all bounds are not. -/
def isReported : Failure → Bool
  | settings (.document cause) => cause.isForeseen
  | settings (.invalid (.clockKind _)) => false
  | settings (.invalid .clockRange) => false
  | settings (.invalid (.noMember ..)) => false
  | settings (.invalid .tooDeep) => false
  | machine .infinite => false
  | _ => true

/-- The note of a reported failure. -/
def note (f : Failure) : Note := ⟨.error, .startup, "Cannot start: " ++ f.message⟩

end Failure

/-! ## Settings -/

/-- The settings of a file. -/
def readConfig (r : Config.Reader) (files : Files) (path : Text) : Except Failure Config := do
  let bytes ← (files path).mapError (.file path)
  (Config.ofBytes r bytes).mapError .settings

/-- The settings with the clock speed of the command line, if it has one. -/
def overrideClock (c : Config) : Option Float → Except Failure Config
  | none => .ok c
  | some x => if x ≤ 0.0 then .error (.clock x) else .ok { c with clock := x }

/-- The settings with the scale of the command line, if it has one. -/
def overrideScale (c : Config) : Option Int → Except Failure Config
  | none => .ok c
  | some n =>
    if n ≤ 0 then .error (.scale n) else .ok { c with screen := { c.screen with scale := n } }

/-- The settings of a run: those of the file, if one is named, under those of the command line. -/
def resolve (r : Config.Reader) (files : Files) (o : Options) : Except Failure Config := do
  let path := o.config.getD []
  let c ← if path.isEmpty then .ok Config.default else readConfig r files path
  overrideScale (← overrideClock c o.clock) o.scale

/-! ## The machine -/

/-- What came of loading a program, and the notes about it. -/
structure Loaded where
  notes : List Note
  result : Except Failure Machine

/-- The machine of a program file. -/
def loadMachine (files : Files) (path : Text) (clock : Float) (generator : Generator) : Loaded :=
  let path := Path.tidy path
  let booting : Note := ⟨.info, .image, "Booting ROM [ " ++ path ++ " ]."⟩
  match files path with
  | .error cause => { notes := [booting], result := .error (.file path cause) }
  | .ok contents =>
    let loading := Loading.ofContents contents path
    let result := do
      let image ← loading.result.mapError .machine
      (Machine.create image (.real clock) generator).mapError .machine
    { notes := booting :: loading.notes, result }

/-! ## The run -/

/-- How a run goes on behind the command line. -/
inductive Plan
  /-- It ends with a status and some lines of output. -/
  | finish (status : Int) (output : List String)
  /-- A window opens on a machine. -/
  | openWindow (machine : Machine) (config : Config)
  /-- It breaks off with a failure that is not reported. -/
  | breakOff (cause : Failure)

/-- A plan and the notes made on the way to it. -/
structure Outcome where
  notes : List Note
  plan : Plan

/-- The outcome of a failure. -/
def fail (notes : List Note) (f : Failure) : Outcome :=
  if f.isReported then { notes := notes ++ [f.note], plan := .finish 2 [] }
  else { notes, plan := .breakOff f }

/-- What options ask for, up to the point where a window opens. -/
def run (r : Config.Reader) (files : Files) (o : Options) (generator : Generator) : Outcome :=
  match resolve r files o with
  | .error f => fail [] f
  | .ok config =>
    let loaded := loadMachine files o.program config.clock generator
    match loaded.result with
    | .error f => fail loaded.notes f
    | .ok machine =>
      let plan : Plan :=
        if o.scan then .finish 0 machine.scanLines else .openWindow machine config
      { notes := loaded.notes, plan }

/-- The level from which notes are shown. -/
def level (o : Options) : Level := if o.verbose then .debug else .warning

end Chip8.Startup

import Chip8.Config
import Chip8.Display
import Chip8.Fault

/-!
# Window/Screen — the screen as it is painted, and the keys typed on it

A screen shows the last buffer it was given, each cell as a square, and turns key events into codes
of the keypad.
-/

namespace Chip8

/-- A rectangle of one colour: its corner, width and height. -/
structure Rect where
  x : Int
  y : Int
  width : Int
  height : Int
  colour : Text
  deriving DecidableEq, Repr

/-- A key that went down or up, or repeats by itself while it is down. -/
structure KeyEvent where
  text : Text
  pressed : Bool
  repeated : Bool
  deriving DecidableEq, Repr

/-- The screen of a window. -/
structure Screen where
  settings : ScreenSettings
  keys : KeyMap
  /-- One byte for each cell; whatever is not zero is lit. -/
  buffer : Vector UInt8 2048
  /-- The number of times that a new picture was asked for. -/
  updates : Nat

namespace Screen

/-- A dark screen. -/
def create (settings : ScreenSettings) (keys : KeyMap) : Screen where
  settings := settings
  keys := keys
  buffer := Vector.replicate 2048 0
  updates := 0

/-- The width of the screen in pixels. -/
def width (s : Screen) : Int := 64 * s.settings.scale

/-- The height of the screen in pixels. -/
def height (s : Screen) : Int := 32 * s.settings.scale

/-- The screen with a new buffer; a new picture is asked for if it differs from the last. -/
def setBuffer (s : Screen) (buffer : Array UInt8) : Except Refusal Screen :=
  if h : buffer.size = 2048 then
    let new : Vector UInt8 2048 := ⟨buffer, h⟩
    if new = s.buffer then .ok s else .ok { s with buffer := new, updates := s.updates + 1 }
  else .error (.bufferSize buffer.size)

/-- The whole area in the background colour. -/
def background (s : Screen) : Rect where
  x := 0
  y := 0
  width := s.width
  height := s.height
  colour := s.settings.background

/-- The square of a cell in the foreground colour. -/
def square (s : Screen) (index : Nat) : Rect where
  x := (index % 64 : Nat) * s.settings.scale
  y := (index / 64 : Nat) * s.settings.scale
  width := s.settings.scale
  height := s.settings.scale
  colour := s.settings.foreground

/-- The squares of the lit cells, in the order of the cells. -/
def squares (s : Screen) : List Rect :=
  s.buffer.toList.zipIdx.filterMap fun (byte, index) =>
    if byte = 0 then none else some (s.square index)

/-- What is filled to paint the screen, in order. -/
def paint (s : Screen) : List Rect := s.background :: s.squares

/-! ## Keys -/

/-- What becomes of a key event. -/
inductive KeyOutcome
  /-- It is a repetition and has no effect. -/
  | ignored
  /-- It is no key of the keypad and left to others. -/
  | passedOn
  /-- It is a key of the keypad. -/
  | mapped (code : Int)
  deriving DecidableEq, Repr

/-- What becomes of a key event on the screen. -/
def outcome (s : Screen) (e : KeyEvent) : KeyOutcome :=
  if e.repeated then .ignored
  else match s.keys.code? e.text with
    | some code => .mapped code
    | none => .passedOn

end Screen

end Chip8

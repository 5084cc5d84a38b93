import Chip8.Image
import Chip8.Window.Panel
import Chip8.Window.Screen

/-!
# Window — a machine that is driven by frames and keys

`Window.tick` lets the time since the last frame pass.  A fault of the program halts the window: it
is kept, shown as the status, and the frames stop; the window can still be started again.
-/

namespace Chip8

/-- A window on a machine. -/
structure Window where
  machine : Machine
  config : Config
  screen : Screen
  panel : Panel
  /-- The time of the last frame, in seconds. -/
  lastTick : Option Float
  /-- Whether frames are coming. -/
  running : Bool
  /-- The milliseconds between frames, once they were started. -/
  interval : Option Int
  status : Text
  /-- The last fault of the program. -/
  halt : Option Fault
  /-- The number of times that the screen was given the keyboard. -/
  focused : Nat

/-- What a call did to a window. -/
structure Reaction where
  window : Window
  notes : List Note
  failure : Option Failure

namespace Window

/-- The words on top of a window. -/
def title : String := "Retro CHIP-8"

/-- A window on a machine. -/
def create (machine : Machine) (config : Config) (font : Text) : Window where
  machine := machine
  config := config
  screen := Screen.create config.screen config.keys
  panel := (Panel.empty font).setUp
  lastTick := none
  running := false
  interval := none
  status := "Running"
  halt := none
  focused := 0

/-- A call that went well and left no notes. -/
def quiet (w : Window) : Reaction := { window := w, notes := [], failure := none }

/-! ## Frames -/

/-- Starts the frames at a time. -/
def start (w : Window) (now : Float) : Window :=
  { w with
    lastTick := some now
    running := true
    interval := some w.config.screen.frameInterval
    focused := w.focused + 1 }

/-- Stops the frames. -/
def stop (w : Window) : Window := { w with running := false }

/-- The status of a window that is not halted. -/
def liveStatus (m : Machine) : Text := if m.isWaiting then "Waiting for key" else "Running"

/-- Shows the machine as it is: its screen, its registers and whether it waits. -/
def refresh (w : Window) : Reaction :=
  match w.screen.setBuffer w.machine.state.display.buffer.toArray with
  | .error r => { window := w, notes := [], failure := some (.refusal r) }
  | .ok screen =>
    quiet { w with
      screen
      panel := w.panel.refresh w.machine
      status := if w.halt.isSome then w.status else liveStatus w.machine }

/-- The window after a fault of the program. -/
def halted (w : Window) (f : Fault) : Window :=
  { w.stop with halt := some f, status := "Halted: " ++ f.message }

/-- Lets the time since the last frame pass and shows what came of it.  Only a fault of the program
is caught; a refusal ends the call before anything is shown. -/
def tick (w : Window) (now : Float) : Reaction :=
  let elapsed := match w.lastTick with
    | some last => now - last
    | none => 0.0
  let s := w.machine.elapse (.seconds (.real elapsed))
  let w := { w with lastTick := some now, machine := s.machine }
  let notes := Note.ofTrace s.trace.toList
  match s.failure with
  | none =>
    let r := w.refresh
    { r with notes := notes ++ r.notes }
  | some (.fault f) =>
    let r := (w.halted f).refresh
    { r with notes := notes ++ ⟨.error, .window, "VM halted: " ++ f.message⟩ :: r.notes }
  | some e => { window := w, notes, failure := some e }

/-! ## Keys -/

/-- A key of the keypad went down or up. -/
def changeKey (w : Window) (code : Int) (pressed : Bool) : Reaction :=
  match w.machine.updateKey code pressed with
  | .ok machine =>
    { window := { w with machine }, notes := [Note.ofKey code pressed], failure := none }
  | .error e => { window := w, notes := [], failure := some e }

/-- A key event on the screen. -/
def typeKey (w : Window) (e : KeyEvent) : Reaction :=
  match w.screen.outcome e with
  | .mapped code => w.changeKey code e.pressed
  | _ => w.quiet

/-- The status that a run ends with: one after a fault of the program, and otherwise the given
one. -/
def exitStatus (w : Window) (status : Int) : Int := if w.halt.isSome then 1 else status

end Window

end Chip8

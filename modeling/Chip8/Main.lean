import Chip8.Document
import Chip8.Startup
import Chip8.Window

/-!
# Main — the command line in a terminal

Reads the files, follows the command line and shows the window as text.  Time, files, output and
what is typed are all that happens here; what they mean is decided by `Startup` and `Window`.
-/

namespace Chip8.Terminal

/-! ## Files -/

/-- Why the system did not read a file. -/
def fileError : IO.Error → FileError
  | .noFileOrDirectory .. => .missing
  | .inappropriateType _ number _ => if number = 21 then .isFolder else .notFolder
  | .permissionDenied .. => .system 13 "Permission denied"
  | e => .system 5 (toString e)

/-- The contents under a path, as the system has them. -/
def readFile (path : Text) : IO (Except FileError (Array UInt8)) := do
  match Path.unwritable? path with
  | some e => return .error e
  | none =>
    if path.any (·.val == 0) then return .error .nullByte
    else
      try return .ok (← IO.FS.readBinFile path.display).data
      catch e => return .error (fileError e)

/-- The files that options name. -/
def readFiles (o : Options) : IO Files := do
  let paths := [o.config.getD [], Path.tidy o.program]
  let contents ← paths.mapM readFile
  return fun path => ((paths.zip contents).lookup path).getD (.error .missing)

/-- A generator that is different in each run. -/
def freshGenerator : IO Generator := do
  let seed ← IO.rand 0 0xFFFFFFFF
  return { values := fun n => ((mixHash seed.toUInt64 n.toUInt64).toNat : Int), requests := #[] }

/-! ## The window as text -/

/-- Writes the notes of a level and above. -/
def report (level : Level) (notes : List Note) : IO Unit := do
  let err ← IO.getStderr
  (Note.lines level notes).forM fun line => err.putStrLn line.display

/-- The seconds since some moment in the past. -/
def now : IO Float := return Float.ofNat (← IO.monoNanosNow) / 1000000000.0

/-- Shows a window over what the terminal showed before. -/
def showWindow (w : Window) : IO Unit := do
  let out ← IO.getStdout
  out.putStrLn "\x1b[2J\x1b[H"
  out.putStrLn w.machine.state.display.text
  out.putStrLn w.status.display
  (w.panel.labels.map Label.text).forM fun label => out.putStr (label ++ "  ")
  out.putStrLn ""
  out.flush

/-- Types a character: its key goes down and up again. -/
def typeChar (level : Level) (w : Window) (c : Char) : IO Window := do
  let down := w.typeKey { text := c.toString, pressed := true, repeated := false }
  let up := down.window.typeKey { text := c.toString, pressed := false, repeated := false }
  report level (down.notes ++ up.notes)
  return up.window

/-- Reads a line and types it; at the end of the input the window is stopped.  No time passes for
the machine meanwhile. -/
def typeLine (level : Level) (w : Window) : IO Window := do
  let line ← (← IO.getStdin).getLine
  if line.isEmpty then return w.stop
  let w ← line.toList.foldlM (typeChar level) w
  return { w with lastTick := some (← now) }

/-- Shows a window frame by frame until it halts.  A line is read where the machine waits for a
key. -/
partial def frames (level : Level) (w : Window) : IO Window := do
  if !w.running then return w
  let w ← if w.machine.isWaiting then typeLine level w else pure w
  IO.sleep (w.interval.getD 0).toNat.toUInt32
  let r := w.tick (← now)
  report level r.notes
  if r.window.screen.updates ≠ w.screen.updates ∨ r.window.status ≠ w.status then
    showWindow r.window
  match r.failure with
  | some e =>
    (← IO.getStderr).putStrLn e.message.display
    return r.window.stop
  | none => frames level r.window

/-! ## Runs -/

/-- Follows options and gives the status of the run. -/
def follow (o : Options) : IO Int := do
  let outcome := Startup.run Document.reader (← readFiles o) o (← freshGenerator)
  report (Startup.level o) outcome.notes
  match outcome.plan with
  | .finish status output =>
    output.forM IO.println
    return status
  | .breakOff cause =>
    (← IO.getStderr).putStrLn cause.message.display
    return 1
  | .openWindow machine config =>
    let w := Window.create machine config (chooseFont [] "monospace")
    showWindow w
    let w ← frames (Startup.level o) (w.start (← now))
    return w.exitStatus 0

/-- Says how the program is used and gives the status of the run. -/
def explain (stop : Stop) : IO Int := do
  match stop with
  | .help => Options.help.forM IO.println
  | .misuse => (← IO.getStderr).putStrLn Options.usage
  return Options.stopStatus stop

end Chip8.Terminal

/-- Runs the program on its command line. -/
def main (arguments : List String) : IO UInt32 := do
  let status ← match Chip8.Options.parse (arguments.map Chip8.Text.ofString) with
    | .ok o => Chip8.Terminal.follow o
    | .error stop => Chip8.Terminal.explain stop
  return status.toNat.toUInt32

import Chip8.Text.Quoted

/-!
# Startup/Folder — files by path, and what opening them can meet

A `Folder` holds files and folders by name.  `Folder.read` follows a path step by step, as a file
system does, and says why it cannot be read.
-/

namespace Chip8

/-- Why a path cannot be read. -/
inductive FileError
  /-- Nothing is there. -/
  | missing
  /-- A folder is there. -/
  | isFolder
  /-- The path goes on behind a file. -/
  | notFolder
  /-- A name or the whole path is too long. -/
  | longName
  /-- The path holds the character that no path holds. -/
  | nullByte
  /-- The path holds halves of characters that stand for no byte: the first of them, and the places
  of the first and the last of those in a row. -/
  | unwritable (code first last : Nat)
  /-- Some other reason of the system, by number and name. -/
  | system (number : Nat) (reason : String)
  deriving DecidableEq, Repr

namespace FileError

/-- The wording of an error, for the path that was asked for. -/
def message (e : FileError) (path : Text) : String :=
  match e with
  | missing => s!"[Errno 2] No such file or directory: {Text.quoted path}"
  | isFolder => s!"[Errno 21] Is a directory: {Text.quoted path}"
  | notFolder => s!"[Errno 20] Not a directory: {Text.quoted path}"
  | longName => s!"[Errno 36] File name too long: {Text.quoted path}"
  | nullByte => "embedded null byte"
  | unwritable code first last =>
    let place :=
      if first = last then
        s!"character '{String.ofList (Text.escapeCode code)}' in position {first}"
      else s!"characters in position {first}-{last}"
    s!"'utf-8' codec can't encode {place}: surrogates not allowed"
  | system n reason => s!"[Errno {n}] {reason}: {Text.quoted path}"

end FileError

/-- Where files come from: the contents under a path. -/
abbrev Files := Text → Except FileError (Array UInt8)

/-! ## Paths -/

namespace Path

/-- What stands between the steps of a path. -/
def slash : CodePoint := CodePoint.ofChar '/'

/-- The steps of a path. -/
def steps (path : Text) : List Text := Text.pieces slash path

/-- Whether a step stays where it is. -/
def stays (step : Text) : Bool := step.isEmpty || step == Text.ofString "."

/-- What stands before the first step: up to two slashes. -/
def root (path : Text) : Text :=
  match (path.takeWhile (· == slash)).length with
  | 0 => []
  | 2 => [slash, slash]
  | _ => [slash]

/-- A path without empty steps and steps that stay; no step at all is the present folder. -/
def tidy (path : Text) : Text :=
  let whole := root path ++ [slash].intercalate ((steps path).filter (!stays ·))
  if whole.isEmpty then "." else whole

/-- The number of bytes of a text in a path; half a character stands for one byte. -/
def byteLength (t : Text) : Nat :=
  t.foldl (fun n p => n + if p.isHalf then 1 else p.char.utf8Size) 0

/-- The first half of a character that stands for no byte, and the places of it and of the last half
in a row with it, if there is one. -/
def unwritable? (path : Text) : Option FileError :=
  let bad (p : CodePoint) : Bool := p.isHalf && !(0xDC80 ≤ p.val && p.val ≤ 0xDCFF)
  match path.span (!bad ·) with
  | (before, p :: rest) =>
    let first := before.length
    some (.unwritable p.val first (first + (rest.takeWhile CodePoint.isHalf).length))
  | (_, []) => none

end Path

/-! ## Folders -/

/-- What a name in a folder stands for. -/
inductive Entry
  | file (contents : Array UInt8)
  | folder (entries : List (Text × Entry))

/-- What is in a folder, by name. -/
abbrev Folder := List (Text × Entry)

namespace Folder

/-- Follows steps from a folder on; `above` are the folders around it, the nearest first. -/
def walk (here : Folder) (above : List Folder) : List Text → Except FileError (Array UInt8)
  | [] => .error .isFolder
  | step :: rest =>
    if Path.stays step then walk here above rest
    else if step = Text.ofString ".." then
      match above with
      | [] => walk here [] rest
      | outer :: above => walk outer above rest
    else if Path.byteLength step > 255 then .error .longName
    else match here.lookup step with
      | none => .error .missing
      | some (.folder entries) => walk entries (here :: above) rest
      | some (.file contents) => if rest.isEmpty then .ok contents else .error .notFolder

/-- Reads a path from the root of all folders.  Nothing is known of the folder from which other
paths start, so that in it nothing is there. -/
def read (root : Folder) : Files := fun path =>
  match Path.unwritable? path with
  | some e => .error e
  | none =>
    if path.any (·.val == 0) then .error .nullByte
    else if path.isEmpty then .error .missing
    else if Path.byteLength path > 4095 then .error .longName
    else if path.head? = some Path.slash then walk root [] (Path.steps path)
    else walk [] [] (Path.steps path)

end Folder

end Chip8

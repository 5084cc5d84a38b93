import Chip8.Config.KeyMap
import Chip8.Config.Reader
import Chip8.Decimal.Reader

/-!
# Config — speed, screen and keys, from a document

`Config.ofValue` takes what a document says, checks it entry by entry and fills the rest with
defaults; `Config.Invalid` says what was wrong.  `Config.ofBytes` does so for a file, whose document
is what a reader makes of it.
-/

namespace Chip8

/-- How the screen is shown. -/
structure ScreenSettings where
  /-- The width and height of a cell in pixels. -/
  scale : Int
  foreground : Text
  background : Text
  /-- The milliseconds between two frames. -/
  frameInterval : Int
  deriving DecidableEq, Repr

/-- The settings of a run. -/
structure Config where
  /-- The clock speed, in cycles a second. -/
  clock : Float
  screen : ScreenSettings
  keys : KeyMap

namespace Config

/-- Ten pixels a cell, white on black, sixteen milliseconds a frame. -/
def defaultScreen : ScreenSettings where
  scale := 10
  foreground := "#FFFFFF"
  background := "#000000"
  frameInterval := 16

/-- Seven hundred cycles a second, the default screen and the standard keys. -/
def default : Config where
  clock := 700.0
  screen := defaultScreen
  keys := KeyMap.standard

/-- What is wrong with a document. -/
inductive Invalid
  /-- The document as a whole is no mapping. -/
  | root (kind : String)
  /-- The clock speed is neither a number nor a text. -/
  | clockKind (kind : String)
  /-- A text in place of a number spells none. -/
  | numeral (cause : Decimal.Misread)
  /-- The clock speed is an integer beyond the doubles. -/
  | clockRange
  /-- The clock speed is not positive. -/
  | clockSign (speed : Float)
  /-- A section that should be a mapping has not the member that a mapping has. -/
  | noMember (kind member : String)
  /-- A value stands where an integer should. -/
  | integer (value : Value)
  /-- The scale is not positive. -/
  | scale (n : Int)
  /-- A key code is not in 0..15. -/
  | keyCode (key code : Value)
  /-- An integer that should be shown is too long to be written. -/
  | longInteger
  /-- A value that should be shown is nested too deeply. -/
  | tooDeep

namespace Invalid

/-- The wording of what is wrong. -/
def message : Invalid → Text
  | root kind => s!"Configuration root must be a mapping, got {kind}"
  | clockKind kind =>
    s!"float() argument must be a string or a real number, not " ++ Text.quoted kind
  | numeral cause => cause.message
  | clockRange => "int too large to convert to float"
  | clockSign x => s!"clock_speed_hz must be positive: {Decimal.text x}"
  | noMember kind member => s!"{Text.quoted kind} object has no attribute {Text.quoted member}"
  | integer v => "Invalid integer format: " ++ v.shown
  | scale n => s!"display.scale must be positive: {n}"
  | keyCode key code => "Key code for '" ++ key.shown ++ "' out of range: " ++ code.shown
  | longInteger => Decimal.tooLong
  | tooDeep => "maximum recursion depth exceeded while getting the repr of an object"

end Invalid

/-! ## Single values -/

/-- Why a value cannot be shown, if it cannot. -/
def unshown? (r : Reader) (v : Value) : Option Invalid :=
  if r.buries v then some .tooDeep else if v.holdsLong then some .longInteger else none

/-- A value as a text. -/
def textOf (r : Reader) (v : Value) : Except Invalid Text :=
  match unshown? r v with
  | some e => .error e
  | none => .ok v.shown

/-- The double that a value is or spells. -/
def realOf : Value → Except Invalid Float
  | .real x => .ok x
  | .bool b => .ok (if b then 1.0 else 0.0)
  | .int n =>
    let x := Float.ofInt n
    if x.isInf then .error .clockRange else .ok x
  | .text t => (Decimal.readReal t).mapError .numeral
  | .bytes b => (Decimal.readRealBytes b).mapError .numeral
  | v => .error (.clockKind v.kind)

/-- The base of a numeral: sixteen behind the mark for it, and ten otherwise. -/
def baseOf (t : Text) : Nat :=
  match t.chars with
  | '0' :: c :: _ => if c = 'x' ∨ c = 'X' then 16 else 10
  | _ => 10

/-- The integer that a value is or spells; a truth value is none. -/
def intOf (r : Reader) : Value → Except Invalid Int
  | .int n => .ok n
  | .text t => (Decimal.readInt (baseOf t) t).mapError .numeral
  | v => .error ((unshown? r v).getD (.integer v))

/-- The entry of a name, or a default. -/
def entry (entries : List (Value × Value)) (name : String) (default : Value) : Value :=
  (Value.get? (.text name) entries).getD default

/-! ## Sections -/

/-- The clock speed of a document. -/
def clockOf (entries : List (Value × Value)) : Except Invalid Float := do
  let x ← realOf (entry entries "clock_speed_hz" (.real 700.0))
  if x ≤ 0.0 then .error (.clockSign x) else .ok x

/-- The screen settings of a section. -/
def screenIn (r : Reader) (display : List (Value × Value)) : Except Invalid ScreenSettings := do
  let scale ← intOf r (entry display "scale" (.int 10))
  let foreground ← textOf r (entry display "foreground" (.text "#FFFFFF"))
  let background ← textOf r (entry display "background" (.text "#000000"))
  let frameInterval ← intOf r (entry display "frame_interval_ms" (.int 16))
  if scale ≤ 0 then .error (if Decimal.isLong scale then .longInteger else .scale scale)
  else .ok { scale, foreground, background, frameInterval }

/-- The screen settings of a document: an absent or blank section gives the defaults. -/
def screenOf (r : Reader) (entries : List (Value × Value)) : Except Invalid ScreenSettings :=
  let given := entry entries "display" .null
  match if given.isBlank then .mapping [] else given with
  | .mapping display => screenIn r display
  | v => .error (.noMember v.kind "get")

/-- The key map with the entries of a document after those it has. -/
def addKeys (r : Reader) (keys : KeyMap) : List (Value × Value) → Except Invalid KeyMap
  | [] => .ok keys
  | (key, code) :: rest => do
    let n ← intOf r code
    if 0 ≤ n ∧ n ≤ 0xF then do
      let name ← textOf r key
      addKeys r (keys.put (Text.uppercase name) n) rest
    else .error (((unshown? r key).or (unshown? r code)).getD (.keyCode key code))

/-- The key map of a document: an absent or blank section gives the standard one. -/
def keysOf (r : Reader) (entries : List (Value × Value)) : Except Invalid KeyMap :=
  let given := entry entries "key_map" .null
  if given.isBlank then .ok KeyMap.standard
  else match given with
    | .mapping keys => addKeys r [] keys
    | v => .error (.noMember v.kind "items")

/-- The settings that a document gives. -/
def ofValue (r : Reader) : Value → Except Invalid Config
  | .mapping entries => do
    let clock ← clockOf entries
    let screen ← screenOf r entries
    let keys ← keysOf r entries
    return { clock, screen, keys }
  | v => .error (.root v.bareKind)

/-! ## Files -/

/-- Why a file gives no settings. -/
inductive Unusable
  | document (cause : Unloadable)
  | invalid (cause : Invalid)

/-- The settings of a document as it was loaded; one without content gives the defaults. -/
def ofDocument (r : Reader) (document : Except Unloadable Value) : Except Unusable Config := do
  let v ← document.mapError .document
  (ofValue r (if v.isBlank then .mapping [] else v)).mapError .invalid

/-- The settings of a file. -/
def ofBytes (r : Reader) (bytes : Array UInt8) : Except Unusable Config :=
  ofDocument r (r.load bytes)

end Config

end Chip8

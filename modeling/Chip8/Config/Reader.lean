import Chip8.Value

/-!
# Config/Reader — what is taken from outside where settings are read

Two things are not decided by the settings: which value the bytes of a file stand for, and whether a
value is nested so deeply that there is no room to show it.  A `Reader` has the answers to both.
Where a file stands for no value, the reader ends with an error, of which the family says whether it
is foreseen.
-/

namespace Chip8.Config

/-- The families of errors that a reader ends with. -/
inductive ErrorFamily
  /-- The system does not give the file. -/
  | system
  /-- A value is none of those that can stand where it does. -/
  | value
  /-- The document breaks the rules of its language. -/
  | document
  /-- Any other family. -/
  | other
  deriving DecidableEq, Repr

/-- The error with which a reader ends. -/
structure Unloadable where
  family : ErrorFamily
  message : Text
  deriving DecidableEq, Repr

/-- Whether an error is of a family that is foreseen. -/
def Unloadable.isForeseen (e : Unloadable) : Bool := e.family != .other

/-- What reads the documents of settings. -/
structure Reader where
  /-- The value of a file, which is nothing where there is no document.  A value inside itself is
  cut no sooner than below the entries of a section. -/
  load : Array UInt8 → Except Unloadable Value
  /-- Whether showing a value ends where too many values are inside one another. -/
  isTooDeep : Value → Bool

/-- Whether a value cannot be shown for what is inside it; one with nothing inside always can. -/
def Reader.buries (r : Reader) (v : Value) : Bool := v.isNested && r.isTooDeep v

end Chip8.Config

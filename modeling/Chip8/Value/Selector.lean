import Chip8.Fault
import Chip8.Machine.State
import Chip8.Value

/-!
# Value/Selector — values that stand for a register, a key or a size

Truth values count as the integers zero and one.  Whatever is no integer stands for nothing, and
the fault shows it as it is.
-/

namespace Chip8.Value

/-- The integer that a value is. -/
def int? : Value → Option Int
  | int n => some n
  | bool b => some (if b then 1 else 0)
  | _ => none

/-- The integer that a value is, or the fault that shows the value, if it can be written. -/
def intOr (fault : Text → Fault) (v : Value) : Except Failure Int :=
  match v.int? with
  | some n => .ok n
  | none => .error (if v.holdsLong then .refusal .longNumber else .fault (fault v.shown))

/-- The register number that a value is. -/
def register (v : Value) : Except Failure Int := v.intOr .noRegister

/-- The key code that a value is. -/
def key (v : Value) : Except Failure Int := v.intOr .noKey

/-- The device size that a value is. -/
def deviceSize (v : Value) : Except Refusal Int :=
  match v.int? with
  | some n => .ok n
  | none => .error .deviceSize

end Chip8.Value

namespace Chip8.State

/-- Whether the key that a value stands for is held down.  A double is compared with the key codes
first, and anything else that is no integer cannot be compared. -/
def isPressedAt (s : State) (v : Value) : Except Failure Bool :=
  match v with
  | .real x =>
    if 0.0 ≤ x ∧ x < 16.0 then .error (.refusal .fractionalKey)
    else .error (.fault (.noKey v.shown))
  | v =>
    match v.int? with
    | some n => s.isPressed n
    | none => .error (.refusal (.unorderedKey v.kind))

end Chip8.State

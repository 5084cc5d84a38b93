import Chip8.Fault

/-!
# Memory/Device — a row of bytes that may refuse to be written

Offsets are integers, and one that is not below the size is a fault before anything else is
looked at.  A device that is only read keeps its cells through every call.  Faults show the size in
the words in which it was given, and the offsets in decimal digits.
-/

namespace Chip8

/-- A memory device of `size` bytes. -/
structure Device (size : Nat) where
  cells : Vector UInt8 size
  /-- Whether every write is a fault. -/
  readOnly : Bool
  /-- The size as faults show it. -/
  shownSize : String

namespace Device

variable {size : Nat}

/-- A device that starts with some contents, cut to its size, and zeros after them. -/
def ofContents (size : Nat) (shownSize : String) (readOnly : Bool) (contents : Array UInt8) :
    Device size where
  cells := Vector.ofFn fun k => contents[k.val]?.getD 0
  readOnly := readOnly
  shownSize := shownSize

/-- The greatest number of bytes that can be counted. -/
def greatestCount : Int := 0x7FFFFFFFFFFFFFFF

/-- A device of any positive size that its contents fit, as far as its bytes can be counted and
there is room for them. -/
def create? (hasRoom : Nat → Bool) (size : Int) (shownSize : String) (readOnly : Bool)
    (contents : Array UInt8) : Except Refusal (Σ n, Device n) :=
  if size ≤ 0 then .error .deviceSize
  else if contents.size > size.toNat then .error (.longContents contents.size shownSize)
  else if size > greatestCount then .error .countlessSize
  else if !hasRoom size.toNat then .error .noRoom
  else .ok ⟨size.toNat, ofContents size.toNat shownSize readOnly contents⟩

/-- The cell of an offset. -/
def index (d : Device size) (offset : Int) : Except Failure (Fin size) :=
  if h : 0 ≤ offset ∧ offset < size then .ok ⟨offset.toNat, by omega⟩
  else .error (Fault.deviceOffset offset d.shownSize).raised

/-- The byte at an offset. -/
def read (d : Device size) (offset : Int) : Except Failure UInt8 := do
  let k ← d.index offset
  return d.cells[k]

/-- The device with the byte at an offset replaced by `data`, which has to be a byte. -/
def write (d : Device size) (offset data : Int) : Except Failure (Device size) := do
  let k ← d.index offset
  if d.readOnly then
    .error (.fault (.readOnly offset data))
  else if 0 ≤ data ∧ data ≤ 0xFF then
    return { d with cells := d.cells.set k (UInt8.ofInt data) }
  else
    .error (.refusal (.wideData data))

/-- The bytes from `start` up to but not including `stop`. -/
def slice (d : Device size) (start stop : Int) : Except Failure (List UInt8) :=
  if 0 ≤ start ∧ start ≤ stop ∧ stop ≤ size then
    .ok (d.cells.extract start.toNat stop.toNat).toList
  else
    .error (Fault.deviceRange start stop d.shownSize).raised

end Device

end Chip8

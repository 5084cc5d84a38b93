import Chip8.Fault

/-!
# CallStack — sixteen frames of return addresses

The frames lie in an array of sixteen slots below a depth.  Slots at the depth and above keep
whatever was there, and `frames` never shows them.
-/

namespace Chip8

/-- A stack of at most sixteen return addresses. -/
structure CallStack where
  slots : Vector UInt16 16
  depth : Nat
  depth_le : depth ≤ 16 := by omega

namespace CallStack

/-- The stack without a frame. -/
def empty : CallStack where
  slots := Vector.replicate 16 0
  depth := 0

/-- A stack with one more frame, of whose address the low sixteen bits are kept. -/
def push (s : CallStack) (address : Int) : Except Fault CallStack :=
  if h : s.depth < 16 then
    .ok { slots := s.slots.set s.depth (UInt16.ofInt address), depth := s.depth + 1 }
  else
    .error (.stackOverflow address)

/-- The newest frame and the stack without it. -/
def pop (s : CallStack) : Except Fault (Int × CallStack) :=
  match h : s.depth with
  | 0 => .error .stackUnderflow
  | n + 1 =>
    have := s.depth_le
    .ok (s.slots[n].toNat, { slots := s.slots, depth := n })

/-- The frames in use, oldest first. -/
def frames (s : CallStack) : List Int :=
  (s.slots.toList.take s.depth).map fun a => (a.toNat : Int)

end CallStack

end Chip8

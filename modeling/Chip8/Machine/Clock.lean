import Chip8.Decimal.Layout
import Chip8.Fault

/-!
# Machine/Clock — speeds and elapsed times in whole microseconds

A speed gives the length of a cycle, `period`, which is never below one microsecond; an elapsed
time gives its whole number of microseconds, `micros`.  Both round to the nearest, a half to the
even neighbour.
-/

namespace Chip8

/-- A quantity given as an integer or as a double. -/
inductive Number
  | whole (n : Int)
  | real (x : Float)

/-- The integer nearest to a double. -/
def nearestInt (x : Float) : Except Refusal Int :=
  match Binary.ofFloat x with
  | .nan => .error .notANumber
  | .infinite _ => .error .infinite
  | b => .ok (b.round?.getD 0)

namespace Number

/-- A quantity as it is shown. -/
def shown : Number → String
  | whole n => toString n
  | real x => Decimal.text x

/-- Whether a quantity is at most zero; a double that is not a number is not. -/
def atMostZero : Number → Bool
  | whole n => n ≤ 0
  | real x => x ≤ 0

/-- The microseconds of one cycle at this many cycles a second. -/
def period (speed : Number) : Except Refusal { n : Nat // 0 < n } :=
  if speed.atMostZero then .error (.clockSpeed speed.shown)
  else match speed with
    | whole n => .ok ⟨max 1 (roundHalfEven 1000000 n.toNat), by omega⟩
    | real x => (nearestInt (1000000.0 / x)).map fun n => ⟨max 1 n.toNat, by omega⟩

end Number

/-- A time that has passed: a number of seconds, or a span in parts. -/
inductive Elapsed
  | seconds (n : Number)
  | span (days seconds micros : Int)

namespace Elapsed

/-- The whole number of microseconds of an elapsed time. -/
def micros : Elapsed → Except Refusal Int
  | .seconds (.whole n) => .ok (n * 1000000)
  | .seconds (.real x) => nearestInt (x * 1000000.0)
  | .span d s m =>
    let total := (d * 86400 + s) * 1000000 + m
    let days := total / 86400000000
    if days.natAbs > 999999999 then .error (.longSpan days) else .ok total

end Elapsed

end Chip8

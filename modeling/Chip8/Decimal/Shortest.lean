import Chip8.Decimal.Binary

/-!
# Decimal/Shortest — the fewest digits that read back as the same double

The reals that round to a double form an interval, closed exactly when its mantissa is even.
`Decimal.shortest` tries one digit, two digits and so on up to seventeen: on each grid it tests
the two neighbours of the value, and the first grid with a hit wins; of two hits the nearer one,
and at equal distance the even one.
-/

namespace Chip8

/-- A positive decimal, `digits * 10 ^ exponent`. -/
structure Decimal where
  digits : Nat
  exponent : Int
  deriving DecidableEq, Repr

namespace Decimal

/-- How many decimal digits a natural has. -/
def length (n : Nat) : Nat := (Nat.toDigits 10 n).length

/-- The decimal without zeros at the end of its digits, given at least as much fuel as digits. -/
def trim : Nat → Decimal → Decimal
  | 0, d => d
  | fuel + 1, d =>
    if d.digits % 10 = 0 ∧ d.digits ≠ 0 then trim fuel ⟨d.digits / 10, d.exponent + 1⟩ else d

/-- A fraction divided by a power of ten. -/
def scaleDown (num den : Nat) (exponent : Int) : Nat × Nat :=
  (num * Nat.pow 10 (-exponent).toNat, den * Nat.pow 10 exponent.toNat)

/-- The exponent of the leading digit of a positive fraction. -/
def magnitude (num den : Nat) : Int :=
  let e : Int := (length num : Int) - length den
  let (n, d) := scaleDown num den e
  if n < d then e - 1 else e

/-- The bounds, lower and upper, of the reals that round to `mantissa * 2 ^ exponent`, in quarters
of the unit `2 ^ exponent`: half a unit on each side, but a quarter below a power of two. -/
def bounds (mantissa : Nat) (exponent : Int) : Nat × Nat :=
  let below := if mantissa = Binary.leastFull ∧ exponent > -1074 then 1 else 2
  (4 * mantissa - below, 4 * mantissa + 2)

/-- The candidate with `count` digits, if one lies in the interval of the double. -/
def candidate? (mantissa : Nat) (exponent : Int) (count : Nat) : Option Decimal :=
  let (num, den) := Binary.ratio mantissa exponent
  let power := magnitude num den + 1 - count
  let (low, high) := bounds mantissa exponent
  let (unit, whole) := Binary.ratio 1 (exponent - 2)
  let (unit, whole) := scaleDown unit whole power
  let inside (d : Nat) : Bool :=
    if mantissa % 2 = 0 then low * unit ≤ d * whole && d * whole ≤ high * unit
    else low * unit < d * whole && d * whole < high * unit
  let value := 4 * mantissa * unit
  let down := value / whole
  let up := down + 1
  let nearest := roundHalfEven value whole
  if inside nearest then some ⟨nearest, power⟩
  else if inside down then some ⟨down, power⟩
  else if inside up then some ⟨up, power⟩
  else none

/-- The decimal of fewest digits that reads back as `mantissa * 2 ^ exponent`. -/
def shortest (mantissa : Nat) (exponent : Int) : Decimal :=
  match (List.range' 1 17).findSome? (candidate? mantissa exponent) with
  | some d => trim 20 d
  | none => ⟨0, 0⟩

end Decimal

end Chip8

/-!
# Decimal/Binary — a double as a whole number times a power of two

`Binary.ofFloat` reads the bits of a double; a finite one is `mantissa * 2 ^ exponent` with its
sign apart.  `Binary.round?` is the nearest integer, a half going to the even neighbour.
-/

namespace Chip8

/-- A double taken apart. -/
inductive Binary
  | nan
  | infinite (negative : Bool)
  | finite (negative : Bool) (mantissa : Nat) (exponent : Int)
  deriving DecidableEq, Repr

/-- The quotient of two naturals rounded to the nearest natural, a half going to the even
neighbour. -/
def roundHalfEven (num den : Nat) : Nat :=
  let q := num / den
  let twice := 2 * (num % den)
  if twice < den then q
  else if den < twice then q + 1
  else q + q % 2

namespace Binary

/-- The least mantissa of full length, of fifty-three bits. -/
def leastFull : Nat := 0x10000000000000

/-- The parts of the double with given bits. -/
def ofBits (bits : Nat) : Binary :=
  let negative := (bits >>> 63) % 2 == 1
  let scale : Nat := (bits >>> 52) % 0x800
  let fraction := bits % leastFull
  if scale = 2047 then
    if fraction = 0 then infinite negative else nan
  else if scale = 0 then finite negative fraction (-1074)
  else finite negative (leastFull + fraction) ((scale : Int) - 1075)

/-- The parts of a double. -/
def ofFloat (x : Float) : Binary := ofBits x.toBits.toNat

/-- The magnitude `mantissa * 2 ^ exponent` as a fraction of naturals. -/
def ratio (mantissa : Nat) (exponent : Int) : Nat × Nat :=
  (mantissa <<< exponent.toNat, 1 <<< (-exponent).toNat)

/-- The nearest integer of a finite double, a half going to the even neighbour. -/
def round? : Binary → Option Int
  | finite negative mantissa exponent =>
    let (num, den) := ratio mantissa exponent
    let n : Int := roundHalfEven num den
    some (if negative then -n else n)
  | _ => none

end Binary

end Chip8

import Chip8.Decimal.Shortest

/-!
# Decimal/Layout — how a real number is written

`Layout` holds the choices of a notation and `Layout.text` carries them out.  `Decimal.text` is the
notation of every message.
-/

namespace Chip8

/-- The choices of a notation for reals. -/
structure Layout where
  /-- The least exponent of the leading digit that is written without an exponent. -/
  least : Int
  /-- The first exponent of the leading digit that is written with an exponent. -/
  most : Int
  /-- What is put behind a whole number. -/
  whole : String
  /-- The fewest digits of a written exponent. -/
  exponentDigits : Nat

namespace Layout

/-- Digits with a point after the first `n` of them, zeros filling either side. -/
def positional (l : Layout) (digits : List Char) (n : Int) : List Char :=
  if n ≤ 0 then ['0', '.'] ++ List.replicate (-n).toNat '0' ++ digits
  else if digits.length ≤ n.toNat then
    digits ++ List.replicate (n.toNat - digits.length) '0' ++ l.whole.toList
  else digits.take n.toNat ++ ['.'] ++ digits.drop n.toNat

/-- One digit before the point and the exponent after a mark, with its sign. -/
def scientific (l : Layout) (digits : List Char) (e : Int) : List Char :=
  let power := Nat.toDigits 10 e.natAbs
  let point := if digits.length ≤ 1 then [] else ['.']
  digits.take 1 ++ point ++ digits.drop 1 ++ ['e', if e < 0 then '-' else '+'] ++
    List.replicate (l.exponentDigits - power.length) '0' ++ power

/-- A positive decimal in the notation. -/
def decimal (l : Layout) (d : Decimal) : List Char :=
  let digits := Nat.toDigits 10 d.digits
  let e : Int := digits.length + d.exponent - 1
  if l.least ≤ e ∧ e < l.most then l.positional digits (e + 1) else l.scientific digits e

/-- A double in the notation. -/
def text (l : Layout) : Binary → String
  | .nan => "nan"
  | .infinite negative => if negative then "-inf" else "inf"
  | .finite negative mantissa exponent =>
    let body := if mantissa = 0 then '0' :: l.whole.toList
      else l.decimal (Decimal.shortest mantissa exponent)
    String.ofList (if negative then '-' :: body else body)

end Layout

namespace Decimal

/-- Leading digits from 0.0001 up to below 10 ^ 16 are written in place, a whole number ends in
`.0`, and an exponent has two digits or more. -/
def layout : Layout := { least := -4, most := 16, whole := ".0", exponentDigits := 2 }

/-- The text of a double. -/
def text (x : Float) : String := layout.text (Binary.ofFloat x)

end Decimal

end Chip8

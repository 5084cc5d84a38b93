/-!
# Text/Hex — upper-case hexadecimal numerals of a least width

`Hex.text w n` writes an integer with zeros on the left until the whole text, a minus sign
included, has `w` characters; a longer numeral is never cut.
-/

namespace Chip8.Hex

/-- The upper-case numeral of a value below sixteen. -/
def digit (d : Nat) : Char :=
  if d < 10 then Char.ofNat (48 + d) else Char.ofNat (55 + d)

/-- The hexadecimal digits of `n`, most significant first; zero has one digit. -/
def digits (n : Nat) : List Char :=
  if n < 16 then [digit n] else digits (n / 16) ++ [digit (n % 16)]
termination_by n
decreasing_by omega

/-- A minus sign for a negative number and nothing otherwise. -/
def sign (n : Int) : List Char :=
  if n < 0 then ['-'] else []

/-- The characters of `n` in hexadecimal, zero-filled after the sign to `width` in all. -/
def chars (width : Nat) (n : Int) : List Char :=
  let body := digits n.natAbs
  sign n ++ List.replicate (width - (sign n).length - body.length) '0' ++ body

/-- The hexadecimal text of `n` in at least `width` characters. -/
def text (width : Nat) (n : Int) : String :=
  String.ofList (chars width n)

/-! ## Bytes -/

/-- Two lower-case hexadecimal digits for each byte, as raw contents are written. -/
def ofBytes (bytes : List UInt8) : String :=
  String.ofList (bytes.flatMap fun b =>
    [(digit (b.toNat / 16)).toLower, (digit (b.toNat % 16)).toLower])

/-- The value of one hexadecimal digit of either case. -/
def value? (c : Char) : Option Nat :=
  if '0' ≤ c ∧ c ≤ '9' then some (c.toNat - 48)
  else if 'a' ≤ c ∧ c ≤ 'f' then some (c.toNat - 87)
  else if 'A' ≤ c ∧ c ≤ 'F' then some (c.toNat - 55)
  else none

/-- The bytes that a row of digit pairs spells; a pair that is none ends the row. -/
def toBytes : List Char → List UInt8
  | high :: low :: rest =>
    match value? high, value? low with
    | some h, some l => UInt8.ofNat (16 * h + l) :: toBytes rest
    | _, _ => []
  | _ => []

end Chip8.Hex

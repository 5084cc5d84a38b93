/-!
# Decimal/Limit — integers that are too long to be written

An integer of more than 4300 decimal digits is not written; where it would have been,
`Decimal.tooLong` is said.
-/

namespace Chip8.Decimal

/-- The greatest number of digits. -/
def maxDigits : Nat := 4300

/-- The least number with more digits. -/
@[irreducible]
def firstLong : Nat := Nat.pow 10 maxDigits

/-- Whether an integer has too many digits. -/
def isLong (n : Int) : Bool := firstLong ≤ n.natAbs

/-- What is said of an integer with too many digits. -/
def tooLong : String :=
  "Exceeds the limit (4300 digits) for integer string conversion; " ++
    "use sys.set_int_max_str_digits() to increase the limit"

end Chip8.Decimal

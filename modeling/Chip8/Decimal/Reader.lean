import Chip8.Decimal.Binary
import Chip8.Decimal.Shortest
import Chip8.Decimal.Limit
import Chip8.Text.Digit
import Chip8.Text.Quoted

/-!
# Decimal/Reader — numbers from their written forms

A numeral may have a sign in front, white space around it and single underscores between its
digits, and the digits may be of any script.  `Decimal.readInt` reads a numeral of some base and
`Decimal.readReal` a real one, rounded to the nearest double.
-/

namespace Chip8.Decimal

/-- Why a text is not read as a number. -/
inductive Misread
  /-- It is no numeral of the base. -/
  | integer (base : Nat) (text : Text)
  /-- It has too many digits. -/
  | long (digits : Nat)
  /-- It is no real number; it is kept as it is written. -/
  | real (written : String)
  deriving DecidableEq, Repr

namespace Misread

/-- The wording of a misread; an integer's text is shown only so far. -/
def message : Misread → String
  | integer base text =>
    let shown := String.ofList ((Text.quoted text).toList.take 200)
    s!"invalid literal for int() with base {base}: {shown}"
  | long n =>
    s!"Exceeds the limit (4300 digits) for integer string conversion: value has {n} digits; " ++
      "use sys.set_int_max_str_digits() to increase the limit"
  | real written => s!"could not convert string to float: {written}"

end Misread

/-! ## Signs and digits -/

/-- Whether a minus sign stands in front, and what follows the sign if there is one. -/
def takeSign : List Char → Bool × List Char
  | '-' :: rest => (true, rest)
  | '+' :: rest => (false, rest)
  | s => (false, s)

/-- The value of a digit or a letter as a digit. -/
def digitValue (c : Char) : Nat :=
  if c.isDigit then c.toNat - 48
  else if c.isLower then c.toNat - 87
  else if c.isUpper then c.toNat - 55
  else 99

/-- The digits of a numeral without its underscores, each of which has to stand between two
digits; `after` says whether the character before was a digit. -/
def joinDigits (base : Nat) (after : Bool) : List Char → Option (List Nat)
  | [] => if after then some [] else none
  | '_' :: rest => if after then joinDigits base false rest else none
  | c :: rest =>
    if digitValue c < base then (joinDigits base true rest).map (digitValue c :: ·) else none

/-- The number that digits spell. -/
def ofDigits (base : Nat) (digits : List Nat) : Nat :=
  digits.foldl (fun n d => n * base + d) 0

/-! ## Integers -/

/-- The letter that marks a base in front of a numeral. -/
def baseMark (base : Nat) : Option Char :=
  if base = 16 then some 'x' else if base = 8 then some 'o' else if base = 2 then some 'b' else none

/-- A numeral without the mark of its base and one underscore behind that. -/
def dropMark (base : Nat) : List Char → List Char
  | '0' :: c :: rest =>
    if some c.toLower = baseMark base then
      match rest with
      | '_' :: rest => rest
      | rest => rest
    else '0' :: c :: rest
  | s => s

/-- The longest run of digits and underscores in front. -/
def digitRun (base : Nat) (s : List Char) : List Char :=
  s.takeWhile fun c => c == '_' || digitValue c < base

/-- The integer that a text spells in a base.  In base ten the number of digits is limited, and
that is said even where something else follows the digits. -/
def readInt (base : Nat) (s : Text) : Except Misread Int :=
  let (negative, body) := takeSign (Text.plain s.chars)
  let body := dropMark base body
  let run := digitRun base body
  match joinDigits base false run with
  | none => .error (.integer base s)
  | some digits =>
    if base = 10 ∧ digits.length > maxDigits then .error (.long digits.length)
    else if run.length = body.length then
      let n : Int := ofDigits base digits
      .ok (if negative then -n else n)
    else .error (.integer base s)

/-! ## Reals -/

/-- The infinite double. -/
def infinity : Float := Float.ofBits 0x7FF0000000000000

/-- The double that is not a number. -/
def nan : Float := Float.ofBits 0x7FF8000000000000

/-- The double nearest to `digits * 10 ^ exponent`; far outside the range of doubles the powers of
ten are not worked out. -/
def nearest (digits : Nat) (exponent : Int) : Float :=
  let leading : Int := length digits + exponent
  if digits = 0 ∨ leading < -400 then 0.0
  else if leading > 400 then infinity
  else Float.ofScientific digits (exponent < 0) exponent.natAbs

/-- The longest run of digits in front, as numbers, and what follows it. -/
def takeDigits (s : List Char) : List Nat × List Char :=
  ((s.takeWhile Char.isDigit).map digitValue, s.dropWhile Char.isDigit)

/-- The exponent that a text consists of: nothing, or a mark, a sign and digits. -/
def exponent? : List Char → Option Int
  | [] => some 0
  | c :: rest =>
    if c.toLower = 'e' then
      let (negative, body) := takeSign rest
      match takeDigits body with
      | ([], _) => none
      | (digits, []) =>
        let n : Int := ofDigits 10 digits
        some (if negative then -n else n)
      | _ => none
    else none

/-- The magnitude that plain digits, a point and an exponent spell. -/
def magnitude? (s : List Char) : Option Float :=
  let (whole, rest) := takeDigits s
  let (part, rest) := match rest with
    | '.' :: rest => takeDigits rest
    | rest => ([], rest)
  if whole.isEmpty && part.isEmpty then none
  else (exponent? rest).map fun e => nearest (ofDigits 10 (whole ++ part)) (e - part.length)

/-- The characters without underscores, each of which has to stand between two digits. -/
def joinReal : Char → List Char → Option (List Char)
  | before, [] => if before = '_' then none else some []
  | before, c :: rest =>
    if c = '_' then (if before.isDigit then joinReal c rest else none)
    else if before = '_' ∧ ¬ c.isDigit then none
    else (joinReal c rest).map (c :: ·)

/-- The double that plain characters spell: a decimal, or an infinity or the like by name. -/
def real? (s : List Char) : Option Float := do
  let body ← joinReal ' ' s
  let (negative, body) := takeSign body
  let lower := String.ofList (body.map Char.toLower)
  let x ← if lower = "inf" ∨ lower = "infinity" then some infinity
    else if lower = "nan" then some nan
    else magnitude? body
  return if negative then -x else x

/-- The double that a text spells. -/
def readReal (s : Text) : Except Misread Float :=
  match real? (Text.plain s.chars) with
  | some x => .ok x
  | none => .error (.real (Text.quoted s))

/-- The double that bytes spell, each as the character of its number; only the first 128 characters
can take part. -/
def readRealBytes (bytes : List UInt8) : Except Misread Float :=
  let char (b : UInt8) : Char := if b < 128 then Char.ofNat b.toNat else CodePoint.replacement
  match real? (Text.plain (bytes.map char)) with
  | some x => .ok x
  | none => .error (.real (Text.quotedBytes bytes))

end Chip8.Decimal

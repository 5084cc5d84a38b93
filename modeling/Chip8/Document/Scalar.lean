import Chip8.Document.Failure
import Chip8.Document.Tag
import Chip8.Text.Lowercase
import Chip8.Value

/-!
# Document/Scalar — the value of a word under a kind

A kind need not be the one that the word suggests, so that a word may have no value under it; then
`Misfit` says why.
-/

namespace Chip8.Document

namespace Scalar

/-- A word without underscores. -/
def dense (word : Text) : Text := word.filter fun p => !p.is '_'

/-- Whether a minus sign stands in front, and what follows the sign if there is one. -/
def splitSign (word : Text) : Bool × Text :=
  match word.chars with
  | '-' :: _ => (true, word.drop 1)
  | '+' :: _ => (false, word.drop 1)
  | _ => (false, word)

/-- The parts of a number in base sixty. -/
def places (word : Text) : List Text := Text.pieces (CodePoint.ofChar ':') word

/-- The integer of a numeral in a base. -/
def numeral (base : Nat) (s : Text) : Except Misfit Int :=
  (Decimal.readInt base s).mapError .numeral

/-- The integer of a number in base sixty. -/
def sixties (s : Text) : Except Misfit Int := do
  let digits ← (places s).mapM (numeral 10)
  return digits.foldl (fun n d => 60 * n + d) 0

/-- The integer of a word. -/
def int (word : Text) : Except Misfit Int := do
  let s := dense word
  let (negative, body) := splitSign s
  let n ← match body.chars with
    | [] => .error .emptyNumber
    | '0' :: 'b' :: _ => numeral 2 (body.drop 2)
    | '0' :: 'x' :: _ => numeral 16 (body.drop 2)
    | ['0'] => .ok 0
    | '0' :: _ => numeral 8 body
    | cs => if cs.contains ':' then sixties body else numeral 10 body
  return if negative then -n else n

/-- The double of a numeral. -/
def real (s : Text) : Except Misfit Float := (Decimal.readReal s).mapError .numeral

/-- The sum of digits in base sixty, the last one first; `unit` is what the first one counts.  A
digit whose unit is beyond the doubles cannot be counted. -/
def sumSixties : Float → Nat → List Float → Except Misfit Float
  | sum, _, [] => .ok sum
  | sum, unit, d :: rest =>
    let x := Float.ofNat unit
    if x.isInf then .error .wideNumber else sumSixties (sum + d * x) (unit * 60) rest

/-- The double of a number in base sixty, summed from its last place up. -/
def realSixties (s : Text) : Except Misfit Float := do
  sumSixties 0.0 1 (← (places s).mapM real).reverse

/-- The double of a word. -/
def float (word : Text) : Except Misfit Float := do
  let s := Text.lowercase (dense word)
  let (negative, body) := splitSign s
  if s.isEmpty then .error .emptyNumber
  else
    let x ←
      if body = Text.ofString ".inf" then .ok Decimal.infinity
      else if body = Text.ofString ".nan" then .ok Decimal.nan
      else if (places body).length > 1 then realSixties body
      else real body
    return if negative then -x else x

/-- The truth value of a word, whatever its case. -/
def truth (word : Text) : Except Misfit Bool :=
  let w := Text.lowercase word
  if ["yes", "true", "on"].any (Text.ofString · == w) then .ok true
  else if ["no", "false", "off"].any (Text.ofString · == w) then .ok false
  else .error (.truth w)

/-- The moment of a date. -/
def date (word : Text) : Except Misfit Moment :=
  match Moment.ofChars? word.chars with
  | none => .error .noDate
  | some m =>
    match m.problem? with
    | some p => .error (.date p)
    | none => .ok m

/-! ## Bytes -/

/-- The value of a character as a digit in base sixty-four. -/
def sixtyFour? (c : Char) : Option Nat :=
  if c.isUpper then some (c.toNat - 65)
  else if c.isLower then some (c.toNat - 71)
  else if c.isDigit then some (c.toNat + 4)
  else if c = '+' then some 62
  else if c = '/' then some 63
  else none

/-- The bytes of digits in base sixty-four, four digits for three bytes.  Other characters are
passed over; equals signs that fill up the last four digits end the text, and without them it must
not end inside four digits.  `count` digits are read of the present four, `bits` are those of them
that belong to no byte yet, and `fills` signs stand behind them. -/
def bytesFrom (count bits fills : Nat) : List Char → Option (List UInt8)
  | [] => if count = 0 then some [] else none
  | c :: rest =>
    if c = '=' then
      if 2 ≤ count ∧ 4 ≤ count + fills + 1 then some []
      else bytesFrom count bits (if 2 ≤ count then fills + 1 else fills) rest
    else match sixtyFour? c with
      | none => bytesFrom count bits fills rest
      | some d =>
        let wide := bits * 64 + d
        let byte (spare : Nat) := UInt8.ofNat (wide >>> spare)
        if count = 0 then bytesFrom 1 d 0 rest
        else if count = 1 then (bytesFrom 2 (wide % 16) 0 rest).map (byte 4 :: ·)
        else if count = 2 then (bytesFrom 3 (wide % 4) 0 rest).map (byte 2 :: ·)
        else (bytesFrom 0 0 0 rest).map (byte 0 :: ·)

/-- The bytes of a text of the first 128 characters. -/
def bytes (word : Text) : Option (List UInt8) :=
  if word.all fun p => p.val < 128 then bytesFrom 0 0 0 word.chars else none

/-! ## Any kind -/

/-- The value of a word under a kind; only some kinds have words. -/
def value (tag : Tag) (word : Text) : Except Failure Value :=
  let settle {α : Type} (f : α → Value) (r : Except Misfit α) : Except Failure Value :=
    (r.map f).mapError .misfit
  match tag with
  | .null => .ok .null
  | .bool => settle .bool (truth word)
  | .int => settle .int (int word)
  | .float => settle .real (float word)
  | .date => settle .moment (date word)
  | .str => .ok (.text word)
  | .binary =>
    match bytes word with
    | some b => .ok (.bytes b)
    | none => .error .malformed
  | _ => .error .malformed

end Scalar

end Chip8.Document

import Chip8.Text
import Chip8.Text.Printable

/-!
# Text/Quoted — a text between quotes, with escapes

Single quotes stand around a text unless it holds one and no double quote.  The quote itself, the
backslash and every code point that is not printable are escaped, so that what is quoted is always a
`String`.
-/

namespace Chip8.Text

/-- The quote that goes around a text. -/
def quoteFor (s : List Char) : Char :=
  if s.contains '\'' && !s.contains '"' then '"' else '\''

/-- The last `count` lower-case hexadecimal digits of a number. -/
def hexDigits : Nat → Nat → List Char
  | 0, _ => []
  | count + 1, n => hexDigits count (n / 16) ++ [Nat.digitChar (n % 16)]

/-- A character by its code, in the shortest of the three forms that hold it. -/
def escapeCode (n : Nat) : List Char :=
  if n < 0x100 then '\\' :: 'x' :: hexDigits 2 n
  else if n < 0x10000 then '\\' :: 'u' :: hexDigits 4 n
  else '\\' :: 'U' :: hexDigits 8 n

/-- One character inside quotes; `shown` says whether it is shown as itself. -/
def escape (quote : Char) (shown : Bool) (c : Char) : List Char :=
  if c = quote ∨ c = '\\' then ['\\', c]
  else if c = '\t' then ['\\', 't']
  else if c = '\n' then ['\\', 'n']
  else if c = '\r' then ['\\', 'r']
  else if shown then [c]
  else escapeCode c.toNat

/-- One code point inside quotes. -/
def escapePoint (quote : Char) (p : CodePoint) : List Char :=
  if p.isHalf then escapeCode p.val else escape quote (isPrintable p.char) p.char

/-- A text in quotes. -/
def quoted (t : Text) : String :=
  let quote := quoteFor t.chars
  String.ofList (quote :: t.flatMap (escapePoint quote) ++ [quote])

/-- Bytes in quotes, with a mark in front; only those of the first 128 characters are shown. -/
def quotedBytes (bytes : List UInt8) : String :=
  let cs := bytes.map fun b => Char.ofNat b.toNat
  let quote := quoteFor cs
  let escapeByte (c : Char) := escape quote (32 ≤ c.toNat && c.toNat < 127) c
  String.ofList ('b' :: quote :: cs.flatMap escapeByte ++ [quote])

end Chip8.Text

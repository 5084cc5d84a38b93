import Chip8.Text.Quoted

/-!
# Text/Utf8 — blocks of bytes as characters, or the first place where they are none

A sequence that the end of a block cuts short is carried over to the next block, and the position of
a mistake is counted from the start of its block, with what was carried over to it.
-/

namespace Chip8.Text

/-- Why bytes are no text. -/
inductive Utf8Mistake
  /-- A byte that begins nothing. -/
  | start
  /-- A sequence that is not continued as it has to be. -/
  | continuation
  /-- A sequence without its end. -/
  | unfinished
  deriving DecidableEq, Repr

/-- A place where bytes are no text: its first byte, its position and its length. -/
structure Utf8Error where
  byte : UInt8
  position : Nat
  length : Nat
  mistake : Utf8Mistake
  deriving DecidableEq, Repr

namespace Utf8Error

/-- The wording of an error. -/
def message (e : Utf8Error) : String :=
  let reason := match e.mistake with
    | .start => "invalid start byte"
    | .continuation => "invalid continuation byte"
    | .unfinished => "unexpected end of data"
  let place :=
    if e.length = 1 then
      s!"byte 0x{String.ofList (hexDigits 2 e.byte.toNat)} in position {e.position}"
    else s!"bytes in position {e.position}-{e.position + e.length - 1}"
  s!"'utf-8' codec can't decode {place}: {reason}"

end Utf8Error

namespace Utf8

/-- Whether a byte continues a sequence. -/
def isContinuation (b : UInt8) : Bool := 0x80 ≤ b && b < 0xC0

/-- The number of bytes of a sequence by its first byte, or zero if none begins with it. -/
def lengthOf (b : UInt8) : Nat :=
  if b < 0x80 then 1
  else if 0xC2 ≤ b && b < 0xE0 then 2
  else if 0xE0 ≤ b && b < 0xF0 then 3
  else if 0xF0 ≤ b && b < 0xF5 then 4
  else 0

/-- Whether a byte may come second behind a first one: the shortest sequence has to be used, and
surrogates and what is beyond the last character have none. -/
def seconds (first second : UInt8) : Bool :=
  isContinuation second &&
    !(first == 0xE0 && second < 0xA0) && !(first == 0xED && second ≥ 0xA0) &&
    !(first == 0xF0 && second < 0x90) && !(first == 0xF4 && second ≥ 0x90)

/-- How many bytes behind the first one go on with its sequence, of at most `n`. -/
def follow (first : UInt8) (n : Nat) (rest : List UInt8) : Nat :=
  match rest.take n with
  | [] => 0
  | second :: more =>
    if seconds first second then 1 + (more.takeWhile isContinuation).length else 0

/-- The character of a whole sequence. -/
def charOf (first : UInt8) (rest : List UInt8) : Char :=
  let lead := if rest.isEmpty then first.toNat else first.toNat % (0x40 >>> rest.length)
  Char.ofNat (rest.foldl (fun n b => n * 64 + b.toNat % 64) lead)

/-- Whether bytes at the end of a block begin a sequence that may go on: one of a surrogate is only
noticed when its third byte is there. -/
def isBegun (first : UInt8) (rest : List UInt8) : Bool :=
  let n := lengthOf first
  let k := follow first (n - 1) rest
  (k = rest.length && k + 1 < n) ||
    (first == 0xED && rest.length == 1 && rest.all fun b => 0xA0 ≤ b && isContinuation b)

/-- The characters of a block from a position on, and what is carried over from it; nothing is
carried over from the last block. -/
def blockFrom (last : Bool) : Nat → Nat → List UInt8 → Except Utf8Error (List Char × List UInt8)
  | _, _, [] => .ok ([], [])
  | 0, _, _ => .ok ([], [])
  | fuel + 1, position, first :: rest =>
    let n := lengthOf first
    let k := follow first (n - 1) rest
    if n = 0 then .error ⟨first, position, 1, .start⟩
    else if k + 1 = n then do
      let (more, carried) ← blockFrom last fuel (position + n) (rest.drop k)
      return (charOf first (rest.take k) :: more, carried)
    else if !last && isBegun first rest then .ok ([], first :: rest)
    else if k = rest.length then .error ⟨first, position, k + 1, .unfinished⟩
    else .error ⟨first, position, k + 1, .continuation⟩

/-- The characters of a block, and what is carried over from it. -/
def block (last : Bool) (bytes : List UInt8) : Except Utf8Error (List Char × List UInt8) :=
  blockFrom last bytes.length 0 bytes

end Utf8

end Chip8.Text

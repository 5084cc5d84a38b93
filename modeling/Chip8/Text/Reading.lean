import Chip8.Text.Utf8

/-!
# Text/Reading — bytes read as characters, portion by portion

Bytes are taken in blocks and characters handed out in portions, with every line end as a line feed.
A mistake in a block loses the whole portion for which the block was taken.
-/

namespace Chip8.Text

/-- Bytes that are partly read. -/
structure Reading where
  /-- The bytes that are not taken yet. -/
  bytes : List UInt8
  /-- The bytes at the end of the last block that begin a sequence. -/
  carried : List UInt8
  /-- Whether a carriage return at the end of the last block waits for what comes behind it. -/
  returned : Bool
  /-- The characters that are not handed out yet. -/
  ready : List Char
  /-- The number of bytes in the last block. -/
  blockBytes : Nat
  /-- The number of characters that came of them. -/
  blockChars : Nat

namespace Reading

/-- Nothing is read yet. -/
def start (bytes : Array UInt8) : Reading where
  bytes := bytes.toList
  carried := []
  returned := false
  ready := []
  blockBytes := 0
  blockChars := 0

/-- A text with every line end as a line feed. -/
def plainLines : List Char → List Char
  | '\r' :: '\n' :: rest => '\n' :: plainLines rest
  | '\r' :: rest => '\n' :: plainLines rest
  | c :: rest => c :: plainLines rest
  | [] => []

/-- The least number of bytes in a block. -/
def leastBlock : Nat := 8192

/-- The number of bytes in the next block: enough for the characters that are missing, if each of
them takes as many as in the last block. -/
def nextBlock (r : Reading) (missing : Nat) : Nat :=
  max leastBlock (missing * r.blockBytes / r.blockChars)

/-- Takes the next block; nothing if all bytes are taken and nothing was held back. -/
def load (r : Reading) (missing : Nat) : Except Utf8Error (Option Reading) := do
  let size := r.nextBlock missing
  let block := r.bytes.take size
  let last := block.isEmpty
  let (chars, carried) ← Utf8.block last (r.carried ++ block)
  let chars := if r.returned && (last || !chars.isEmpty) then '\r' :: chars else chars
  let held := !last && chars.getLast? == some '\r'
  let ready := plainLines (if held then chars.dropLast else chars)
  if last && ready.isEmpty then return none
  else return some {
    bytes := r.bytes.drop size
    carried
    returned := held || (r.returned && chars.isEmpty)
    ready
    blockBytes := block.length
    blockChars := ready.length }

/-- The next characters, as many as are missing unless the bytes end before. -/
def take : Nat → Nat → Reading → Except Utf8Error (List Char × Reading)
  | 0, _, r => .ok ([], r)
  | fuel + 1, missing, r =>
    let here := r.ready.take missing
    let r := { r with ready := r.ready.drop missing }
    if here.length = missing then .ok (here, r)
    else do
      match ← r.load (missing - here.length) with
      | none => return (here, r)
      | some r =>
        let (more, r) ← take fuel (missing - here.length) r
        return (here ++ more, r)

/-- The number of characters in a portion. -/
def portionSize : Nat := 4096

/-- The portions that come next, up to the first mistake, and that mistake. -/
def portionsFrom : Nat → Reading → List (List Char) × Option Utf8Error
  | 0, _ => ([], none)
  | fuel + 1, r =>
    match r.take (r.bytes.length + 2) portionSize with
    | .error mistake => ([], some mistake)
    | .ok ([], _) => ([], none)
    | .ok (portion, r) =>
      let (more, mistake) := portionsFrom fuel r
      (portion :: more, mistake)

/-- The portions of some bytes up to the first mistake, and that mistake. -/
def portions (bytes : Array UInt8) : List (List Char) × Option Utf8Error :=
  portionsFrom (bytes.size + 2) (start bytes)

end Reading

end Chip8.Text

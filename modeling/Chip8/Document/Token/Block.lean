import Chip8.Document.Cursor
import Chip8.Document.Token

/-!
# Document/Token/Block — the text of a scalar of whole lines

The lines begin at the greatest column that the spaces before the first one reach, or where the
header says.  A folded scalar joins neighbouring lines that begin with no gap; `Chomping` says what
becomes of the line ends behind the last one.
-/

namespace Chip8.Document

/-- What is done with the line ends behind a block scalar. -/
inductive Chomping
  | strip | clip | keep
  deriving DecidableEq, Repr

/-- A sign that says what is done with the last line ends. -/
def readChomping (c : Cursor) : Option (Chomping × Cursor) :=
  if c.head = '+' then some (.keep, c.next)
  else if c.head = '-' then some (.strip, c.next)
  else none

/-- A digit from one to nine that gives the indentation; a zero is not allowed. -/
def readIndentation (c : Cursor) : Except Flaw (Option Nat × Cursor) :=
  if c.head = '0' then .error c.flaw
  else if c.head.isDigit then .ok (some (c.head.toNat - 48), c.next)
  else .ok (none, c)

/-- The two marks behind the sign of a block scalar, in either order, up to the end of the line. -/
def readBlockHeader (c : Cursor) : Except Flaw (Chomping × Option Nat × Cursor) := do
  let (chomping, indentation, c) ←
    match readChomping c with
    | some (chomping, c) => do
      let (indentation, c) ← readIndentation c
      .ok (chomping, indentation, c)
    | none => do
      let (indentation, c) ← readIndentation c
      match indentation, readChomping c with
      | some _, some (chomping, c) => .ok (chomping, indentation, c)
      | _, _ => .ok (.clip, indentation, c)
  if isSpaceOrEnd c.head then return (chomping, indentation, ← c.endLine) else .error c.flaw

/-- The blank lines ahead, the greatest column that spaces reach in them, and the cursor behind
them. -/
def blockIndentation : Nat → Cursor → Nat → List Char × Nat × Cursor
  | 0, c, widest => ([], widest, c)
  | fuel + 1, c, widest =>
    if c.head = ' ' then
      let c := c.next
      blockIndentation fuel c (max widest c.column)
    else if isBreak c.head then
      let (mark, c) := c.lineEnd
      let (more, widest, c) := blockIndentation fuel c widest
      (mark ++ more, widest, c)
    else ([], widest, c)

/-- The blank lines ahead, with at most the indentation before each line end. -/
def blockBreaks (indent : Nat) : Nat → Cursor → List Char × Cursor
  | 0, c => ([], c)
  | fuel + 1, c =>
    let c := c.skipSpacesTo indent
    if isBreak c.head then
      let (mark, c) := c.lineEnd
      let (more, c) := blockBreaks indent fuel c
      (mark ++ more, c)
    else ([], c)

/-- The lines of a block scalar from its first one on: the text without its last line end, that
line end, the blank lines behind it, and the cursor behind those. -/
def blockLines (folded : Bool) (indent : Nat) :
    Nat → List Char → Cursor → List Char × List Char × List Char × Cursor
  | 0, breaks, c => ([], [], breaks, c)
  | fuel + 1, breaks, c =>
    if c.column = indent ∧ !c.atEnd then
      let wide (x : Char) : Bool := x == ' ' || x == '\t'
      let firstWide := wide c.head
      let (line, c) := c.take (!isBreakOrEnd ·)
      let (mark, c) := c.lineEnd
      let (later, c) := blockBreaks indent (fuel + 1) c
      if c.column = indent ∧ !c.atEnd then
        let joint :=
          if folded && mark == ['\n'] && !firstWide && !wide c.head then
            if later.isEmpty then [' '] else []
          else mark
        let (more, last, breaks', c) := blockLines folded indent fuel later c
        (breaks ++ line ++ joint ++ more, last, breaks', c)
      else (breaks ++ line, mark, later, c)
    else ([], [], breaks, c)

/-- A block scalar, from its sign on; `indent` is that of the block around it. -/
def readBlockScalar (folded : Bool) (indent : Int) (c : Cursor) :
    Except Flaw (Token × Cursor) := do
  let (chomping, indentation, c) ← readBlockHeader c.next
  let least : Nat := (max 1 (indent + 1)).toNat
  let fuel := c.rest.length + 1
  let (breaks, depth, c) :=
    match indentation with
    | none =>
      let (breaks, widest, c) := blockIndentation fuel c 0
      (breaks, max least widest, c)
    | some n =>
      let depth := least + n - 1
      let (breaks, c) := blockBreaks depth fuel c
      (breaks, depth, c)
  let (text, last, breaks, c) := blockLines folded depth fuel breaks c
  let ending := match chomping with
    | .strip => []
    | .clip => last
    | .keep => last ++ breaks
  return (.scalar (Text.ofChars (text ++ ending)) false, c)

end Chip8.Document

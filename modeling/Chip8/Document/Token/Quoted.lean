import Chip8.Document.Cursor
import Chip8.Text.Hex

/-!
# Document/Token/Quoted — the text of a scalar in quotes

Line ends are folded: one alone becomes a space, and of several the first goes.  Between double
quotes a backslash begins an escape; between single quotes only a doubled quote stands for one.  An
escape may stand for half a character, but not for a number beyond all code points.
-/

namespace Chip8.Document

/-- The character that a backslash and a letter stand for. -/
def escapeFor (c : Char) : Option Char :=
  match c with
  | '0' => some (Char.ofNat 0)
  | 'a' => some (Char.ofNat 7)
  | 'b' => some (Char.ofNat 8)
  | 't' => some '\t'
  | '\t' => some '\t'
  | 'n' => some '\n'
  | 'v' => some (Char.ofNat 0xB)
  | 'f' => some (Char.ofNat 0xC)
  | 'r' => some '\r'
  | 'e' => some (Char.ofNat 0x1B)
  | ' ' => some ' '
  | '"' => some '"'
  | '\\' => some '\\'
  | '/' => some '/'
  | 'N' => some (Char.ofNat 0x85)
  | '_' => some (Char.ofNat 0xA0)
  | 'L' => some (Char.ofNat 0x2028)
  | 'P' => some (Char.ofNat 0x2029)
  | _ => none

/-- The number of hexadecimal digits behind a letter. -/
def escapeLength (c : Char) : Option Nat :=
  match c with
  | 'x' => some 2
  | 'u' => some 4
  | 'U' => some 8
  | _ => none

/-- The line ends ahead inside quotes, with the gaps before them; no separator of documents may
come among them. -/
def quotedBreaks : Nat → Cursor → Except Flaw (List Char × Cursor)
  | 0, c => .error c.flaw
  | fuel + 1, c =>
    if c.atAnySeparator then .error (c.forward 3).flaw
    else
      let c := c.skip fun x => x == ' ' || x == '\t'
      if isBreak c.head then do
        let (mark, c) := c.lineEnd
        let (more, c) ← quotedBreaks fuel c
        return (mark ++ more, c)
      else .ok ([], c)

/-- Folded line ends: one line feed becomes a space unless others follow it. -/
def fold (mark more : List Char) : List Char :=
  if mark ≠ ['\n'] then mark ++ more
  else if more.isEmpty then [' '] else more

/-- The code point that `n` digits stand for. -/
def readCode (n : Nat) (c : Cursor) : Except Flaw (Text × Cursor) :=
  let digits := (c.rest.take n).takeWhile fun x => (Hex.value? x).isSome
  let after := c.forward digits.length
  let code := digits.foldl (fun n d => 16 * n + (Hex.value? d).getD 0) 0
  if digits.length < n then .error after.flaw
  else if h : code < 0x110000 then .ok ([⟨code, h⟩], after)
  else .error ⟨c.index, .misfit (.codePoint code)⟩

/-- What a backslash and the characters behind it stand for, and the cursor behind them. -/
def readEscape (fuel : Nat) (c : Cursor) : Except Flaw (Text × Cursor) :=
  if c.atEnd then .error c.flaw
  else
    match escapeFor c.head with
    | some x => .ok (Text.ofChars [x], c.next)
    | none =>
      match escapeLength c.head with
      | some n => readCode n c.next
      | none =>
        if isBreak c.head then do
          let (breaks, c) ← quotedBreaks fuel c.lineEnd.2
          return (Text.ofChars breaks, c)
        else .error c.flaw

/-- A gap inside quotes, of spaces and tabs or of line ends, and the cursor behind it. -/
def readGap (fuel : Nat) (c : Cursor) : Except Flaw (Text × Cursor) :=
  let (gap, c) := c.take fun x => x == ' ' || x == '\t'
  if c.atEnd then .error c.flaw
  else if isBreak c.head then do
    let (mark, c) := c.lineEnd
    let (breaks, c) ← quotedBreaks fuel c
    return (Text.ofChars (fold mark breaks), c)
  else .ok (Text.ofChars gap, c)

/-- The text of a quoted scalar up to its closing quote, and the cursor behind that. -/
def readQuoted (double : Bool) : Nat → Cursor → Except Flaw (Text × Cursor)
  | 0, c => .error c.flaw
  | fuel + 1, c =>
    let quote := if double then '"' else '\''
    let x := c.head
    if c.atEnd then .error c.flaw
    else if x = quote then
      if !double && c.peek 1 == '\'' then do
        let (more, c) ← readQuoted double fuel (c.forward 2)
        return (CodePoint.ofChar '\'' :: more, c)
      else .ok ([], c.next)
    else if double && x == '\\' then do
      let (text, c) ← readEscape fuel c.next
      let (more, c) ← readQuoted double fuel c
      return (text ++ more, c)
    else if x = ' ' ∨ x = '\t' ∨ isBreak x then do
      let (gap, c) ← readGap fuel c
      let (more, c) ← readQuoted double fuel c
      return (gap ++ more, c)
    else do
      let (more, c) ← readQuoted double fuel c.next
      return (CodePoint.ofChar x :: more, c)

end Chip8.Document

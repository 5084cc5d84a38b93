import Chip8.Document.Failure

/-!
# Document/Cursor — a place in a text, with its line and column

A cursor holds what is still to be read.  Behind the last character it shows the end mark, which
no text contains, as often as it is asked.
-/

namespace Chip8.Document

/-- A place in a text. -/
structure Cursor where
  rest : List Char
  /-- The number of characters passed. -/
  index : Nat
  line : Nat
  column : Nat

/-- What is shown behind the last character. -/
def endMark : Char := Char.ofNat 0

/-- The byte order mark, which takes no column. -/
def orderMark : Char := Char.ofNat 0xFEFF

/-- Whether a character ends a line. -/
def isBreak (c : Char) : Bool :=
  c == '\n' || c == '\r' || c.toNat == 0x85 || c.toNat == 0x2028 || c.toNat == 0x2029

/-- Whether a character ends a line or the text. -/
def isBreakOrEnd (c : Char) : Bool := c == endMark || isBreak c

/-- Whether a character is a space or ends a line or the text. -/
def isSpaceOrEnd (c : Char) : Bool := c == ' ' || isBreakOrEnd c

/-- Whether a character is a space or a tab or ends a line or the text. -/
def isGapOrEnd (c : Char) : Bool := c == '\t' || isSpaceOrEnd c

namespace Cursor

/-- The start of a text. -/
def start (text : List Char) : Cursor where
  rest := text
  index := 0
  line := 0
  column := 0

/-- The character that comes after `n` others. -/
def peek (c : Cursor) (n : Nat) : Char := c.rest.getD n endMark

/-- The next character. -/
def head (c : Cursor) : Char := c.peek 0

/-- The flaw of a text that breaks the rules at the cursor. -/
def flaw (c : Cursor) : Flaw := ⟨c.index, .malformed⟩

/-- Whether the text is used up. -/
def atEnd (c : Cursor) : Bool := c.rest.isEmpty

/-- The cursor behind the next character; a pair of return and line feed is one line end. -/
def next (c : Cursor) : Cursor :=
  match c.rest with
  | [] => c
  | x :: rest =>
    if isBreak x && !(x == '\r' && rest.head? == some '\n') then
      { rest, index := c.index + 1, line := c.line + 1, column := 0 }
    else
      let column := if x = orderMark then c.column else c.column + 1
      { rest, index := c.index + 1, line := c.line, column }

/-- The cursor behind the next `n` characters. -/
def forward (c : Cursor) : Nat → Cursor
  | 0 => c
  | n + 1 => c.next.forward n

/-- The number of characters ahead that satisfy a condition. -/
def run (c : Cursor) (p : Char → Bool) : Nat := (c.rest.takeWhile p).length

/-- The cursor behind the characters ahead that satisfy a condition. -/
def skip (c : Cursor) (p : Char → Bool) : Cursor := c.forward (c.run p)

/-- The characters ahead that satisfy a condition, and the cursor behind them. -/
def take (c : Cursor) (p : Char → Bool) : List Char × Cursor := (c.rest.takeWhile p, c.skip p)

/-- The cursor behind the spaces ahead. -/
def skipSpaces (c : Cursor) : Cursor := c.skip (· == ' ')

/-- The cursor behind the spaces ahead, as long as it is before a column. -/
def skipSpacesTo (column : Nat) (c : Cursor) : Cursor :=
  c.forward (min (c.run (· == ' ')) (column - c.column))

/-- The cursor behind a comment, if one comes next. -/
def skipComment (c : Cursor) : Cursor :=
  if c.head = '#' then c.skip (!isBreakOrEnd ·) else c

/-- The line end that comes next as a text keeps it, and the cursor behind it; nothing if none
comes next. -/
def lineEnd (c : Cursor) : List Char × Cursor :=
  let x := c.head
  if x = '\r' ∧ c.peek 1 = '\n' then (['\n'], c.forward 2)
  else if x = '\n' ∨ x = '\r' ∨ x.toNat = 0x85 then (['\n'], c.next)
  else if isBreak x then ([x], c.next)
  else ([], c)

/-- The rest of a line that may only hold spaces and a comment. -/
def endLine (c : Cursor) : Except Flaw Cursor :=
  let c := c.skipSpaces.skipComment
  if isBreakOrEnd c.head then .ok c.lineEnd.2 else .error c.flaw

/-- Whether three equal marks and a gap come next, as between documents. -/
def atSeparator (c : Cursor) (mark : Char) : Bool :=
  c.head == mark && c.peek 1 == mark && c.peek 2 == mark && isGapOrEnd (c.peek 3)

/-- Whether a line that separates documents comes next. -/
def atAnySeparator (c : Cursor) : Bool := c.atSeparator '-' || c.atSeparator '.'

end Cursor

end Chip8.Document

import Chip8.Document.Token.Quoted

/-!
# Document/Token/Plain — the text of a scalar without quotes

Such a scalar ends at a comment, at a mark of a value, before a line that is not indented enough
and, inside brackets, at a bracket or a comma.  Its line ends are folded.
-/

namespace Chip8.Document

/-- What comes between two parts of a plain scalar. -/
structure PlainGap where
  text : List Char
  /-- Whether a line ended. -/
  broken : Bool
  cursor : Cursor

/-- The line ends ahead, with the spaces between them, up to a separator of documents; `none`
within if there is one. -/
def plainBreaks : Nat → Cursor → Option (List Char) × Cursor
  | 0, c => (some [], c)
  | fuel + 1, c =>
    if c.head = ' ' then plainBreaks fuel c.next
    else if isBreak c.head then
      let (mark, c) := c.lineEnd
      if c.atAnySeparator then (none, c)
      else
        let (more, c) := plainBreaks fuel c
        (more.map (mark ++ ·), c)
    else (some [], c)

/-- The gap ahead, which may hold spaces or line ends. -/
def readPlainGap (c : Cursor) : PlainGap :=
  let (spaces, c) := c.take (· == ' ')
  if isBreak c.head then
    let (mark, c) := c.lineEnd
    if c.atAnySeparator then { text := [], broken := true, cursor := c }
    else
      let (breaks, c) := plainBreaks (c.rest.length + 1) c
      { text := (breaks.map (fold mark)).getD [], broken := true, cursor := c }
  else { text := spaces, broken := false, cursor := c }

/-- The number of characters ahead that belong to one part of a plain scalar. -/
def plainRun (inFlow : Bool) : List Char → Nat
  | [] => 0
  | x :: rest =>
    let follower := rest.headD endMark
    let ends := isGapOrEnd follower || (inFlow && ",[]\x7b\x7d".toList.contains follower)
    if isGapOrEnd x then 0
    else if x == ':' && ends then 0
    else if inFlow && ",?[]\x7b\x7d".toList.contains x then 0
    else plainRun inFlow rest + 1

/-- The text of a plain scalar, whether a line ended behind its last part, and the cursor behind
it; `gap` is what stands before the next part. -/
def readPlain (inFlow : Bool) (indent : Int) :
    Nat → List Char → Bool → Cursor → List Char × Bool × Cursor
  | 0, _, broken, c => ([], broken, c)
  | fuel + 1, gap, broken, c =>
    let n := if c.head = '#' then 0 else plainRun inFlow c.rest
    if n = 0 then ([], broken, c)
    else
      let part := c.rest.take n
      let g := readPlainGap (c.forward n)
      let stops := g.text.isEmpty || g.cursor.head == '#' ||
        (!inFlow && decide ((g.cursor.column : Int) < indent))
      if stops then (gap ++ part, g.broken, g.cursor)
      else
        let (more, broken, c) := readPlain inFlow indent fuel g.text g.broken g.cursor
        (gap ++ part ++ more, broken, c)

end Chip8.Document

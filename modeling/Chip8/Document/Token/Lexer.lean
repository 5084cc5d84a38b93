import Chip8.Document.Source
import Chip8.Document.Token.Block
import Chip8.Document.Token.Plain
import Chip8.Document.Token.Property

/-!
# Document/Token/Lexer — the lexical units of a text, in order

Indentation opens and closes blocks, and a mark of a value may turn the unit before it on the same
line into a key.  A lexer therefore remembers, for each level of brackets, the last place where such
a key could have begun; when the mark comes, the key goes in front of that place.  Where the text
cannot be read on, the units break off.
-/

namespace Chip8.Document

/-- A place where a key without a mark of its own may have begun. -/
structure KeyPlace where
  /-- The number of units before it. -/
  units : Nat
  /-- Whether nothing else than a key can stand there. -/
  required : Bool
  index : Nat
  line : Nat
  column : Nat

/-- A text that is partly read into units. -/
structure Lexer where
  cursor : Cursor
  tokens : Array Token
  /-- The number of open brackets. -/
  depth : Nat
  /-- The column of the innermost block, or -1 outside all blocks. -/
  indent : Int
  /-- The columns of the blocks around it, innermost first. -/
  outer : List Int
  /-- Whether a key may begin here. -/
  keyAllowed : Bool
  /-- The places where keys may have begun, by level of brackets. -/
  places : List (Nat × KeyPlace)

namespace Lexer

/-- Nothing is read yet. -/
def start (text : List Char) : Lexer where
  cursor := Cursor.start text
  tokens := #[]
  depth := 0
  indent := -1
  outer := []
  keyAllowed := true
  places := []

/-- The lexer with one more unit. -/
def emit (l : Lexer) (t : Token) : Lexer := { l with tokens := l.tokens.push t }

/-- The lexer with one more unit, and behind the `n` characters of it. -/
def emitOver (l : Lexer) (t : Token) (n : Nat) : Lexer :=
  { l.emit t with cursor := l.cursor.forward n }

/-! ## Blocks -/

/-- Closes blocks from the innermost out, as long as they are inside a column; the list holds the
columns around the innermost block. -/
def closeFrom (column : Int) : List Int → Lexer → Lexer
  | [], l => l
  | outer :: rest, l =>
    if l.indent > column then
      closeFrom column rest { l.emit .blockEnd with indent := outer, outer := rest }
    else l

/-- The blocks that end at a column are closed; brackets keep every block open. -/
def closeBlocks (l : Lexer) (column : Int) : Lexer :=
  if l.depth > 0 then l else closeFrom column l.outer l

/-- Whether a block at a column would be inside the innermost one. -/
def deeper (l : Lexer) (column : Nat) : Bool := l.indent < column

/-- The lexer with a block at a column. -/
def openBlock (l : Lexer) (column : Nat) : Lexer :=
  { l with outer := l.indent :: l.outer, indent := column }

/-! ## Keys -/

/-- The place of a key at this level of brackets. -/
def place? (l : Lexer) : Option KeyPlace :=
  (l.places.find? fun (depth, _) => depth == l.depth).map Prod.snd

/-- The places without the one at this level. -/
def otherPlaces (l : Lexer) : List (Nat × KeyPlace) :=
  l.places.filter fun (depth, _) => depth != l.depth

/-- The flaw of a text that breaks the rules at the cursor. -/
def flaw (l : Lexer) : Flaw := l.cursor.flaw

/-- Forgets the place at this level, unless a key is required there. -/
def dropPlace (l : Lexer) : Except Flaw Lexer :=
  match l.place? with
  | some p => if p.required then .error l.flaw else .ok { l with places := l.otherPlaces }
  | none => .ok l

/-- Whether a place is on another line or too far back for its key. -/
def isStale (l : Lexer) (p : KeyPlace) : Bool :=
  p.line != l.cursor.line || l.cursor.index > p.index + 1024

/-- Forgets the places on other lines or too far back, unless a key is required there. -/
def dropStale (l : Lexer) : Except Flaw Lexer :=
  if l.places.any fun (_, p) => l.isStale p && p.required then .error l.flaw
  else .ok { l with places := l.places.filter fun (_, p) => !l.isStale p }

/-- Remembers that a key may begin here. -/
def savePlace (l : Lexer) : Except Flaw Lexer :=
  if l.keyAllowed then do
    let l ← l.dropPlace
    let p : KeyPlace := {
      units := l.tokens.size
      required := l.depth == 0 && l.indent == l.cursor.column
      index := l.cursor.index
      line := l.cursor.line
      column := l.cursor.column }
    return { l with places := (l.depth, p) :: l.places }
  else .ok l

/-! ## Units -/

/-- Reads a unit that may be a key. -/
def readUnit (l : Lexer) (read : Cursor → Except Flaw (Token × Cursor)) : Except Flaw Lexer := do
  let l ← l.savePlace
  let (token, cursor) ← read l.cursor
  return { l.emit token with cursor, keyAllowed := false }

/-- The end of all blocks, as before a separator. -/
def endBlocks (l : Lexer) : Except Flaw Lexer := do
  let l ← (l.closeBlocks (-1)).dropPlace
  return { l with keyAllowed := false }

/-- A line between documents. -/
def separator (l : Lexer) (t : Token) : Except Flaw Lexer := do
  return (← l.endBlocks).emitOver t 3

/-- A directive. -/
def directive (l : Lexer) : Except Flaw Lexer := do
  let l ← l.endBlocks
  let (token, cursor) ← readDirective l.cursor
  return { l.emit token with cursor }

/-- An opening bracket. -/
def openBracket (l : Lexer) (t : Token) : Except Flaw Lexer := do
  let l ← l.savePlace
  return { l.emitOver t 1 with depth := l.depth + 1, keyAllowed := true }

/-- A closing bracket; one that closes nothing is an error. -/
def closeBracket (l : Lexer) (t : Token) : Except Flaw Lexer := do
  let l ← l.dropPlace
  if l.depth = 0 then .error l.flaw
  else return { l.emitOver t 1 with depth := l.depth - 1, keyAllowed := false }

/-- A comma between brackets. -/
def flowEntry (l : Lexer) : Except Flaw Lexer := do
  let l ← { l with keyAllowed := true }.dropPlace
  return l.emitOver .flowEntry 1

/-- Opens a block at the cursor if it would be inside the innermost one; outside brackets a key has
to be allowed there. -/
def enterBlock (l : Lexer) (t : Token) : Except Flaw Lexer :=
  if l.depth > 0 then .ok l
  else if !l.keyAllowed then .error l.cursor.next.flaw
  else if l.deeper l.cursor.column then .ok ((l.emit t).openBlock l.cursor.column)
  else .ok l

/-- A dash before an item. -/
def blockEntry (l : Lexer) : Except Flaw Lexer := do
  let l ← l.enterBlock .blockSequenceStart
  let l ← { l with keyAllowed := true }.dropPlace
  return l.emitOver .blockEntry 1

/-- A mark of a key. -/
def explicitKey (l : Lexer) : Except Flaw Lexer := do
  let l ← l.enterBlock .blockMappingStart
  let l ← { l with keyAllowed := l.depth == 0 }.dropPlace
  return l.emitOver .key 1

/-- Units with some others put in front of the last ones. -/
def insertAt (tokens : Array Token) (n : Nat) (new : List Token) : Array Token :=
  (tokens.toList.take n ++ new ++ tokens.toList.drop n).toArray

/-- A mark of a value, which makes a key of what began at the remembered place. -/
def valueMark (l : Lexer) : Except Flaw Lexer :=
  match l.place? with
  | some p =>
    let l := { l with places := l.otherPlaces, keyAllowed := false }
    let l :=
      if l.depth == 0 && l.deeper p.column then
        { l with tokens := insertAt l.tokens p.units [.blockMappingStart, .key] }.openBlock p.column
      else { l with tokens := insertAt l.tokens p.units [.key] }
    .ok (l.emitOver .value 1)
  | none => do
    let l ← l.enterBlock .blockMappingStart
    let l ← { l with keyAllowed := l.depth == 0 }.dropPlace
    return l.emitOver .value 1

/-- A scalar of whole lines. -/
def blockScalar (l : Lexer) (folded : Bool) : Except Flaw Lexer := do
  let l ← { l with keyAllowed := true }.dropPlace
  let (token, cursor) ← readBlockScalar folded l.indent l.cursor
  return { l.emit token with cursor }

/-- A scalar in quotes. -/
def quotedScalar (l : Lexer) (double : Bool) : Except Flaw Lexer :=
  l.readUnit fun c => do
    let (text, c) ← readQuoted double (c.rest.length + 1) c.next
    return (.scalar text false, c)

/-- A scalar without quotes. -/
def plainScalar (l : Lexer) : Except Flaw Lexer := do
  let l ← l.savePlace
  let fuel := l.cursor.rest.length + 1
  let (text, broken, cursor) := readPlain (l.depth > 0) (l.indent + 1) fuel [] false l.cursor
  return { l.emit (.scalar (Text.ofChars text) true) with cursor, keyAllowed := broken }

/-- Whether a scalar without quotes may begin here. -/
def atPlain (l : Lexer) : Bool :=
  let x := l.cursor.head
  let special := isGapOrEnd x || "-?:,[]\x7b\x7d#&*!|>'\"%@\x60".toList.contains x
  !special ||
    (!isGapOrEnd (l.cursor.peek 1) && (x == '-' || (l.depth == 0 && (x == '?' || x == ':'))))

/-! ## The whole text -/

/-- Passes blanks, comments and line ends; a key may begin after a line end outside brackets. -/
def skipToUnit : Nat → Lexer → Lexer
  | 0, l => l
  | fuel + 1, l =>
    let c := l.cursor.skipSpaces.skipComment
    if isBreak c.head then
      skipToUnit fuel { l with cursor := c.lineEnd.2, keyAllowed := l.keyAllowed || l.depth == 0 }
    else { l with cursor := c }

/-- Passes a byte order mark at the very start. -/
def skipOrderMark (l : Lexer) : Lexer :=
  if l.cursor.index = 0 ∧ l.cursor.head = orderMark then { l with cursor := l.cursor.next } else l

/-- Reads the unit at the cursor; the end of the text is not one of these. -/
def readNext (l : Lexer) : Except Flaw Lexer :=
  let c := l.cursor
  let x := c.head
  let marked := l.depth > 0 || isGapOrEnd (c.peek 1)
  if x = '%' ∧ c.column = 0 then l.directive
  else if c.column = 0 ∧ c.atSeparator '-' then l.separator .documentStart
  else if c.column = 0 ∧ c.atSeparator '.' then l.separator .documentEnd
  else if x = '[' then l.openBracket .flowSequenceStart
  else if x = '\x7b' then l.openBracket .flowMappingStart
  else if x = ']' then l.closeBracket .flowSequenceEnd
  else if x = '\x7d' then l.closeBracket .flowMappingEnd
  else if x = ',' then l.flowEntry
  else if x = '-' ∧ isGapOrEnd (c.peek 1) then l.blockEntry
  else if x = '?' ∧ marked then l.explicitKey
  else if x = ':' ∧ marked then l.valueMark
  else if x = '*' then l.readUnit fun c => (readAnchor c).map fun (name, c) => (.alias name, c)
  else if x = '&' then l.readUnit fun c => (readAnchor c).map fun (name, c) => (.anchor name, c)
  else if x = '!' then l.readUnit readTag
  else if x = '|' ∧ l.depth = 0 then l.blockScalar false
  else if x = '>' ∧ l.depth = 0 then l.blockScalar true
  else if x = '\'' then l.quotedScalar false
  else if x = '"' then l.quotedScalar true
  else if l.atPlain then l.plainScalar
  else .error c.next.flaw

/-- The number of units that stay as they are whatever comes: those before all places of keys. -/
def settled (l : Lexer) : Nat :=
  l.places.foldl (fun n (_, p) => if l.isStale p then n else min n p.units) l.tokens.size

/-- The settled units, behind which the text is broken off. -/
def brokenOff (l : Lexer) (cause : Failure) : Array Token :=
  (l.tokens.extract 0 l.settled).push (.broken cause)

/-- Reads the unit at the cursor, or ends the text there; `true` comes with the end. -/
def advance (l : Lexer) : Except Flaw (Bool × Lexer) := do
  let l ← l.dropStale
  let l := l.closeBlocks l.cursor.column
  if l.cursor.atEnd then return (true, (← l.endBlocks).emit .streamEnd)
  else return (false, ← (← l.readNext).dropStale)

/-- Reads units up to the end of a text of some length, or up to where it cannot be read on.
Whatever looks at what is behind a text that does not end there fails for the reason why. -/
def readAll (stop : Option Failure) (length : Nat) : Nat → Lexer → Array Token
  | 0, before => before.brokenOff .malformed
  | fuel + 1, before =>
    let reason? (index : Nat) : Option Failure := if index < length then none else stop
    let l := skipToUnit (before.cursor.rest.length + 1) before.skipOrderMark
    match reason? l.cursor.index with
    | some cause => before.brokenOff cause
    | none =>
      match l.advance with
      | .error flaw => before.brokenOff ((reason? flaw.index).getD flaw.cause)
      | .ok (true, after) => after.tokens
      | .ok (false, after) =>
        match reason? after.cursor.index with
        | some cause => before.brokenOff cause
        | none => readAll stop length fuel after

end Lexer

/-- The lexical units of a source. -/
def Token.ofSource (s : Source) : List Token :=
  let n := s.chars.length
  (Lexer.readAll s.stop n (n + 2) (Lexer.start s.chars)).toList

end Chip8.Document

import Chip8.Document.Cursor
import Chip8.Document.Token
import Chip8.Text.Hex

/-!
# Document/Token/Property — anchors, tags and directives as they are written

Each is read from its first character; a text that breaks its rules has a flaw.
-/

namespace Chip8.Document

/-! ## Names -/

/-- Whether a character may stand in a name. -/
def isNameChar (c : Char) : Bool := c.isAlphanum || c == '-' || c == '_'

/-- A name of at least one character. -/
def readName (c : Cursor) : Except Flaw (List Char × Cursor) :=
  let (name, after) := c.take isNameChar
  if name.isEmpty then .error c.flaw else .ok (name, after)

/-- The name behind a mark of an alias or an anchor. -/
def readAnchor (c : Cursor) : Except Flaw (String × Cursor) := do
  let (name, c) ← readName c.next
  if isGapOrEnd c.head || "?:,]%@\x7d\x60".toList.contains c.head then
    return (String.ofList name, c)
  else .error c.flaw

/-! ## Tags -/

/-- Whether a character may stand in the body of a tag. -/
def isTagChar (c : Char) : Bool :=
  c.isAlphanum || "-;/?:@&=+$,_.!~*'()[]%".toList.contains c

/-- A text in which each byte may be written as a percent sign and two digits. -/
def percentDecode : List Char → Option (List UInt8)
  | [] => some []
  | '%' :: a :: b :: rest => do
    let byte := 16 * (← Hex.value? a) + (← Hex.value? b)
    return UInt8.ofNat byte :: (← percentDecode rest)
  | '%' :: _ => none
  | c :: rest => do
    return (String.singleton c).toUTF8.toList ++ (← percentDecode rest)

/-- The text of the body of a tag. -/
def tagText? (body : List Char) : Option String := do
  String.fromUTF8? (← percentDecode body).toByteArray

/-- The body of a tag, of at least one character. -/
def readTagBody (c : Cursor) : Except Flaw (String × Cursor) :=
  let (body, after) := c.take isTagChar
  if body.isEmpty then .error c.flaw
  else
    match tagText? body with
    | some text => .ok (text, after)
    | none => .error c.flaw

/-- The handle of a tag: exclamation marks around a name, or one alone before a space. -/
def readTagHandle (c : Cursor) : Except Flaw (String × Cursor) :=
  if c.head ≠ '!' then .error c.flaw
  else if c.peek 1 = ' ' then .ok ("!", c.next)
  else
    let (name, after) := c.next.take isNameChar
    if after.head = '!' then .ok (String.ofList ('!' :: name ++ ['!']), after.next)
    else .error after.flaw

/-- A tag: a body between angle brackets, a lone exclamation mark, or a handle and a body. -/
def readTag (c : Cursor) : Except Flaw (Token × Cursor) := do
  let (token, c) ←
    if c.peek 1 = '<' then do
      let (body, c) ← readTagBody (c.forward 2)
      if c.head = '>' then .ok (Token.tag none body, c.next) else .error c.flaw
    else if isGapOrEnd (c.peek 1) then .ok (Token.tag none "!", c.next)
    else
      let word := c.next.rest.takeWhile fun x => !isSpaceOrEnd x
      if word.contains '!' then do
        let (handle, c) ← readTagHandle c
        let (body, c) ← readTagBody c
        .ok (Token.tag (some handle) body, c)
      else do
        let (body, c) ← readTagBody c.next
        .ok (Token.tag (some "!") body, c)
  if isSpaceOrEnd c.head then return (token, c) else .error c.flaw

/-! ## Directives -/

/-- A row of decimal digits. -/
def readNumber (c : Cursor) : Except Flaw (Nat × Cursor) :=
  let (digits, after) := c.take Char.isDigit
  if digits.isEmpty then .error c.flaw
  else .ok (digits.foldl (fun n d => 10 * n + (d.toNat - 48)) 0, after)

/-- A version: two numbers around a point. -/
def readVersion (c : Cursor) : Except Flaw (Token × Cursor) := do
  let (major, c) ← readNumber c
  if c.head ≠ '.' then .error c.flaw
  else
    let (_, c) ← readNumber c.next
    if isSpaceOrEnd c.head then return (.version major, c) else .error c.flaw

/-- A handle of tags and what it stands for. -/
def readTagMeaning (c : Cursor) : Except Flaw (Token × Cursor) := do
  let (handle, c) ← readTagHandle c
  if c.head ≠ ' ' then .error c.flaw
  else
    let (body, c) ← readTagBody c.skipSpaces
    if isSpaceOrEnd c.head then return (.tagHandle handle body, c) else .error c.flaw

/-- A directive, from its percent sign to the end of its line. -/
def readDirective (c : Cursor) : Except Flaw (Token × Cursor) := do
  let (name, c) ← readName c.next
  if !isSpaceOrEnd c.head then .error c.flaw
  else
    let (token, c) ←
      if name = "YAML".toList then readVersion c.skipSpaces
      else if name = "TAG".toList then readTagMeaning c.skipSpaces
      else .ok (Token.otherDirective, c.skip (!isBreakOrEnd ·))
    return (token, ← c.endLine)

end Chip8.Document

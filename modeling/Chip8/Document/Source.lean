import Chip8.Document.Failure
import Chip8.Text.Reading

/-!
# Document/Source — what can be read of a document

Only some characters may stand in a document.  A text is looked through for others at once.  Of a
file the first two portions are, and a later one only when everything in front of it is used up, so
that another failure may come before.
-/

namespace Chip8.Document

/-- The text of a document as far as it can be read. -/
structure Source where
  chars : List Char
  /-- Why it cannot be read any further, unless it ends there. -/
  stop : Option Failure

namespace Source

/-- Whether a character may stand in a document. -/
def isAllowed (c : Char) : Bool :=
  let n := c.toNat
  n == 9 || n == 10 || n == 13 || (32 ≤ n && n ≤ 126) || n == 0x85 || (0xA0 ≤ n && n ≤ 0xFFFD) ||
    0x10000 ≤ n

/-- A text as a source. -/
def ofText (text : Text) : Except Failure Source :=
  if text.all fun p => !p.isHalf && isAllowed p.char then .ok { chars := text.chars, stop := none }
  else .error .malformed

/-- A source that goes on with some portions, behind which there may be a failure. -/
def extend (chars : List Char) (failure : Option Failure) (portions : List (List Char)) : Source :=
  let good := portions.takeWhile (·.all isAllowed)
  { chars := chars ++ good.flatten
    stop := if good.length < portions.length then some .malformed else failure }

/-- The bytes of a file as a source. -/
def ofBytes (bytes : Array UInt8) : Except Failure Source :=
  let (portions, mistake) := Text.Reading.portions bytes
  let failure := mistake.map Failure.encoding
  match portions with
  | first :: second :: rest =>
    if (first ++ second).all isAllowed then .ok (extend (first ++ second) failure rest)
    else .error .malformed
  | few =>
    match failure with
    | some f => .error f
    | none => ofText (Text.ofChars few.flatten)

end Source

end Chip8.Document

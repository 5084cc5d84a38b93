import Chip8.Document.Failure

/-!
# Document/Token — the lexical units of a document

A unit is a mark of structure, a property of a node, or a scalar; `Token.Lexer` finds them in a text
and puts them in order.
-/

namespace Chip8.Document

/-- A lexical unit. -/
inductive Token
  | version (major : Nat)
  | tagHandle (handle tagStart : String)
  | otherDirective
  | documentStart
  | documentEnd
  | streamEnd
  | blockSequenceStart
  | blockMappingStart
  | blockEnd
  | flowSequenceStart
  | flowSequenceEnd
  | flowMappingStart
  | flowMappingEnd
  | blockEntry
  | flowEntry
  | key
  | value
  | alias (name : String)
  | anchor (name : String)
  | tag (handle : Option String) (suffix : String)
  | scalar (text : Text) (plain : Bool)
  /-- A place from which the text cannot be read on. -/
  | broken (cause : Failure)
  deriving DecidableEq, Repr

end Chip8.Document

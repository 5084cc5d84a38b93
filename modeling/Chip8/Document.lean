import Chip8.Config
import Chip8.Document.Content
import Chip8.Document.Node.Builder

/-!
# Document — a reader of documents

A document is text in YAML.  `Document.value` gives the value of its first node, and
`Document.reader` is the reader that a run of the program takes its settings from.  What is said of
settings elsewhere is said of every reader, and rests on nothing here.
-/

namespace Chip8

namespace Document

/-- The value of a source: nothing at all for one without a document. -/
def value (s : Source) : Except Failure Value := do
  match ← Graph.ofTokens (Token.ofSource s) with
  | none => return .null
  | some (graph, root) => return (← Study.ofGraph graph root).value root

/-- The value of a text. -/
def ofText (text : Text) : Except Failure Value := Source.ofText text >>= value

/-- The value of the bytes of a file. -/
def ofBytes (bytes : Array UInt8) : Except Failure Value := Source.ofBytes bytes >>= value

/-- The reader of YAML, on a stack that holds every value. -/
def reader : Config.Reader where
  load bytes := (ofBytes bytes).mapError Failure.unloadable
  isTooDeep _ := false

end Document

end Chip8

/-!
# Document/Tag — the kinds of nodes

Every node has a kind, which the document names or which follows from the node itself.
-/

namespace Chip8.Document

/-- The kinds of nodes. -/
inductive Tag
  | null | bool | int | float | date | binary | str | seq | map
  /-- A row of pairs whose keys are named once each. -/
  | ordered
  /-- A row of pairs. -/
  | pairs
  | set
  /-- The word that brings in the entries of other mappings. -/
  | merge
  /-- The word that marks a default value. -/
  | default
  | other (name : String)
  deriving DecidableEq, Repr

namespace Tag

/-- Where the names of the common kinds begin. -/
def common : String := "tag:yaml.org,2002:"

/-- The kind of a full name. -/
def ofName (name : String) : Tag :=
  if name = common ++ "null" then null
  else if name = common ++ "bool" then bool
  else if name = common ++ "int" then int
  else if name = common ++ "float" then float
  else if name = common ++ "timestamp" then date
  else if name = common ++ "binary" then binary
  else if name = common ++ "str" then str
  else if name = common ++ "seq" then seq
  else if name = common ++ "map" then map
  else if name = common ++ "omap" then ordered
  else if name = common ++ "pairs" then pairs
  else if name = common ++ "set" then set
  else if name = common ++ "merge" then merge
  else if name = common ++ "value" then default
  else other name

end Tag

end Chip8.Document

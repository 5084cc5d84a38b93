import Chip8.Document.Node

/-!
# Document/Node/Merging — mappings that bring in the entries of others

An entry whose key merges stands for the entries of the mapping that is its value, or of several
mappings, of which the later come first.  `Graph.flatten?` replaces such entries by what they stand
for; the entries brought in come before the mapping's own.  A mapping may bring in itself: the entry
is gone before its value is looked at, so that only the other entries come twice.
-/

namespace Chip8.Document

namespace Graph

/-- The entries of the mapping at a place. -/
def entries (g : Graph) (place : Nat) : List (Nat × Nat) :=
  match g.node place with
  | .mapping _ entries => entries
  | _ => []

/-- The graph with other entries for the mapping at a place. -/
def setEntries (g : Graph) (place : Nat) (entries : List (Nat × Nat)) : Graph :=
  g.put place (.mapping (g.node place).tag entries)

/-- Whether a key merges. -/
def isMerge (g : Graph) (key : Nat) : Bool := (g.node key).tag == .merge

/-- The graph in which a key that marks a default is a plain word. -/
def plainKey (g : Graph) (key : Nat) : Graph :=
  let n := g.node key
  if n.tag = .default then g.put key (n.withTag .str) else g

/-- The graph in which some entries come before those of the mapping at a place, and its own keys
are plain. -/
def bringIn (g : Graph) (place : Nat) (merged : List (Nat × Nat)) : Graph :=
  let own := g.entries place
  own.foldl (fun g (key, _) => g.plainKey key) (g.setEntries place (merged ++ own))

mutual

/-- Flattens the mapping at a place, for which some entries are brought in already. -/
def flattenWith : Nat → Nat → List (Nat × Nat) → Graph → Option Graph
  | 0, _, _, _ => none
  | fuel + 1, place, merged, g =>
    let own := g.entries place
    match own.span fun (key, _) => !g.isMerge key with
    | (before, (_, value) :: behind) => do
      let (more, g) ← brought fuel value (g.setEntries place (before ++ behind))
      flattenWith fuel place (merged ++ more) g
    | (_, []) => some (g.bringIn place merged)

/-- The entries that a value brings in, and the graph in which its mappings are flattened. -/
def brought : Nat → Nat → Graph → Option (List (Nat × Nat) × Graph)
  | 0, _, _ => none
  | fuel + 1, place, g =>
    match g.node place with
    | .mapping .. => broughtByAll fuel [place] g
    | .sequence _ items => broughtByAll fuel items g
    | .scalar .. => none

/-- The entries that some mappings bring in, those of the later ones first. -/
def broughtByAll : Nat → List Nat → Graph → Option (List (Nat × Nat) × Graph)
  | 0, _, _ => none
  | _, [], g => some ([], g)
  | fuel + 1, place :: rest, g =>
    match g.node place with
    | .mapping .. => do
      let g ← flattenWith fuel place [] g
      let here := g.entries place
      let (later, g) ← broughtByAll fuel rest g
      return (later ++ here, g)
    | _ => none

end

/-- The graph in which the mapping at a place has no key that merges, unless one of them stands
before something else than mappings. -/
def flatten? (g : Graph) (place : Nat) : Option Graph :=
  flattenWith ((g.size + 4) * (g.size + 4)) place [] g

end Graph

end Chip8.Document

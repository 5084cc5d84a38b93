import Chip8.Document.Tag
import Chip8.Text

/-!
# Document/Node — the nodes of a document

A node may be part of several others, and even of itself, so a document is a `Graph`: its nodes
stand in a row, and the parts of a node are named by their places in it.
-/

namespace Chip8.Document

/-- A node of a document. -/
inductive Node
  | scalar (tag : Tag) (word : Text)
  | sequence (tag : Tag) (items : List Nat)
  | mapping (tag : Tag) (entries : List (Nat × Nat))
  deriving DecidableEq, Repr

namespace Node

/-- The scalar without text. -/
def blank : Node := .scalar .null []

/-- The kind of a node. -/
def tag : Node → Tag
  | scalar t _ => t
  | sequence t _ => t
  | mapping t _ => t

/-- A node with another kind. -/
def withTag (t : Tag) : Node → Node
  | scalar _ w => scalar t w
  | sequence _ items => sequence t items
  | mapping _ entries => mapping t entries

/-- The number of parts of a node. -/
def size : Node → Nat
  | scalar .. => 0
  | sequence _ items => items.length
  | mapping _ entries => entries.length

end Node

/-- The nodes of a document by place. -/
structure Graph where
  nodes : Array Node

namespace Graph

/-- A graph without nodes. -/
def empty : Graph where
  nodes := #[]

/-- The node at a place. -/
def node (g : Graph) (place : Nat) : Node := g.nodes.getD place Node.blank

/-- The graph with another node at a place. -/
def put (g : Graph) (place : Nat) (n : Node) : Graph where
  nodes := g.nodes.setIfInBounds place n

/-- The graph with one more node, and its place. -/
def add (g : Graph) (n : Node) : Nat × Graph := (g.nodes.size, { nodes := g.nodes.push n })

/-- The number of nodes and of their parts. -/
def size (g : Graph) : Nat := g.nodes.foldl (fun n node => n + node.size + 1) 0

end Graph

end Chip8.Document

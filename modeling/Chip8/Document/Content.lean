import Chip8.Document.Node.Merging
import Chip8.Document.Scalar
import Chip8.Value.Members

/-!
# Document/Content — what the nodes of a document stand for

Each node stands for one `Content`.  The nodes are worked out level by level: first a node itself,
and its parts only when it is its turn, behind all nodes that were met before.  Of several failures
the first one in this order is reported.
-/

namespace Chip8.Document

/-- What a node stands for; parts that may have parts of their own are named by their places. -/
inductive Content
  | scalar (v : Value)
  | list (items : List Nat)
  | pairs (entries : List (Nat × Nat))
  | set (members : List Value)
  | mapping (entries : List (Value × Nat))

/-- A document that is partly worked out. -/
structure Study where
  graph : Graph
  /-- What is known, by place. -/
  known : Array (Option Content)
  /-- The places whose parts are not worked out yet, in the order in which they were met. -/
  waiting : Array Nat

namespace Study

/-- Nothing is worked out. -/
def start (g : Graph) : Study where
  graph := g
  known := Array.replicate g.nodes.size none
  waiting := #[]

/-- What the node at a place is known to stand for. -/
def content? (s : Study) (place : Nat) : Option Content := (s.known[place]?).join

/-- The study with the content of a place. -/
def settle (s : Study) (place : Nat) (c : Content) : Study :=
  { s with known := s.known.setIfInBounds place (some c) }

/-- The study with a place that is to wait for its turn. -/
def await (s : Study) (place : Nat) : Study :=
  { s.settle place (.list []) with waiting := s.waiting.push place }

/-- The word of the node at a place; that of a mapping is the word of its default.  Defaults that go
through more steps than there are nodes go round for ever. -/
def word (g : Graph) : Nat → Nat → Except Failure Text
  | 0, _ => .error (.misfit .endless)
  | fuel + 1, place =>
    match g.node place with
    | .scalar _ word => .ok word
    | .sequence .. => .error .malformed
    | .mapping _ entries =>
      match entries.find? fun (key, _) => (g.node key).tag == .default with
      | some (_, value) => word g fuel value
      | none => .error .malformed

/-- The value of a node that has to have a word. -/
def wordValue (g : Graph) (place : Nat) : Except Failure Value := do
  let w ← word g (g.nodes.size + 1) place
  match g.node place with
  | .scalar tag _ => Scalar.value tag w
  | n => if n.tag = .date then .error (.misfit .datedMapping) else Scalar.value n.tag w

/-- Meets the node at a place: a word is worked out, and anything with parts is to wait. -/
def meet (s : Study) (place : Nat) : Except Failure Study :=
  if (s.content? place).isSome then .ok s
  else
    match (s.graph.node place).tag with
    | .seq => .ok (s.await place)
    | .map => .ok (s.await place)
    | .ordered => .ok (s.await place)
    | .pairs => .ok (s.await place)
    | .set => .ok (s.await place)
    | _ => do return s.settle place (.scalar (← wordValue s.graph place))

/-- Meets several nodes in order. -/
def meetAll (s : Study) (places : List Nat) : Except Failure Study := places.foldlM meet s

/-- A key with its place, and the place of the value. -/
abbrev Entry := (Nat × Value) × Nat

/-- Entries with one more: one with an equal key keeps its place and its key. -/
def putEntry (e : Entry) : List Entry → List Entry
  | [] => [e]
  | d :: rest =>
    if d.1.1 = e.1.1 ∨ d.1.2.sameKey e.1.2 then (d.1, e.2) :: rest else d :: putEntry e rest

/-- Meets the key and the value of an entry; whatever has parts is no key. -/
def meetEntry (s : Study × List Entry) (entry : Nat × Nat) :
    Except Failure (Study × List Entry) := do
  let (key, value) := entry
  let known ← s.1.meet key
  match known.content? key with
  | some (.scalar v) => return (← known.meet value, putEntry ((key, v), value) s.2)
  | _ => .error .malformed

/-- The entries of a mapping without those that merge, when its keys and values are met. -/
def meetMapping (s : Study) (place : Nat) : Except Failure (Study × List Entry) :=
  match s.graph.node place with
  | .mapping .. =>
    match s.graph.flatten? place with
    | none => .error .malformed
    | some graph => (graph.entries place).foldlM meetEntry ({ s with graph }, [])
  | _ => .error .malformed

/-- Meets the one entry of an item of a row of pairs. -/
def meetPair (s : Study × List (Nat × Nat)) (item : Nat) :
    Except Failure (Study × List (Nat × Nat)) := do
  match s.1.graph.node item with
  | .mapping _ [(key, value)] =>
    return (← s.1.meetAll [key, value], s.2 ++ [(key, value)])
  | _ => .error .malformed

/-- Works out the parts of the node at a place. -/
def work (s : Study) (place : Nat) : Except Failure Study :=
  match s.graph.node place with
  | .sequence .seq items => do return (← s.meetAll items).settle place (.list items)
  | .mapping .map _ => do
    let (s, entries) ← s.meetMapping place
    return s.settle place (.mapping (entries.map fun ((_, key), value) => (key, value)))
  | .mapping .set _ => do
    let (s, entries) ← s.meetMapping place
    return s.settle place (.set (Value.shownOrder (entries.map fun ((_, key), _) => key)))
  | .sequence tag items =>
    if tag = .ordered ∨ tag = .pairs then do
      let (s, entries) ← items.foldlM meetPair (s, [])
      return s.settle place (.pairs entries)
    else .error .malformed
  | _ => .error .malformed

/-- Works out what waits from the `turn`-th place on. -/
def workAll : Nat → Nat → Study → Except Failure Study
  | 0, _, s => .ok s
  | fuel + 1, turn, s =>
    match s.waiting[turn]? with
    | none => .ok s
    | some place => do workAll fuel (turn + 1) (← s.work place)

/-- A graph when everything is worked out that can be reached from a place. -/
def ofGraph (g : Graph) (root : Nat) : Except Failure Study := do
  workAll (g.nodes.size + 1) 0 (← (start g).meet root)

/-! ## Values -/

/-- What is known of a place. -/
def content (s : Study) (place : Nat) : Content := (s.content? place).getD (.list [])

/-- Values that were assembled, by place, and how often something inside itself was cut off. -/
structure Assembly where
  made : Array (Option Value)
  cuts : Nat

/-- The value of a content whose parts have values. -/
def assemble {m : Type → Type} [Monad m] (part : Nat → m Value) : Content → m Value
  | .scalar v => pure v
  | .list items => do return .list (← items.mapM part)
  | .pairs entries => do
    return .list (← entries.mapM fun (a, b) => do return .pair (← part a) (← part b))
  | .set members => pure (.set members)
  | .mapping entries => do
    return .mapping (← entries.mapM fun (key, value) => do return (key, ← part value))

/-- Whether a content is shown with braces when it is cut off. -/
def isMapping : Content → Bool
  | .mapping _ => true
  | _ => false

/-- The value at a place inside the places of a path; on the path itself it is cut off.  A value in
which nothing was cut off is the same on every path and made once only. -/
def unfold (s : Study) : Nat → List Nat → Nat → StateM Assembly Value
  | 0, _, _ => pure .null
  | fuel + 1, path, place => do
    let before ← get
    match (before.made[place]?).join with
    | some v => return v
    | none =>
      if path.contains place then
        set { before with cuts := before.cuts + 1 }
        return .cut (isMapping (s.content place))
      else
        let v ← assemble (unfold s fuel (place :: path)) (s.content place)
        modify fun after =>
          if after.cuts = before.cuts then
            { after with made := after.made.setIfInBounds place (some v) }
          else after
        return v

/-- The value of the node at a place.  It and its parts are sections; what is cut off is found
inside each part of a section by itself. -/
def value (s : Study) (root : Nat) : Value :=
  let part := unfold s (s.known.size + 1) []
  let whole := assemble (fun place => assemble part (s.content place)) (s.content root)
  (whole.run { made := Array.replicate s.known.size none, cuts := 0 }).1

end Study

end Chip8.Document

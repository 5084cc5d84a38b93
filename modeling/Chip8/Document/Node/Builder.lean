import Chip8.Document.Failure
import Chip8.Document.Node
import Chip8.Document.Token.Lexer
import Chip8.Document.Word

/-!
# Document/Node/Builder — the graph of a row of lexical units

`Graph.ofTokens` builds the graph of the one document that a row of lexical units holds.  An alias
stands for the node that was anchored under its name, which may be one that the alias is part of.
Where the text is broken off, the row fails for what it is broken off for.
-/

namespace Chip8.Document

/-- A row of units that is partly built into nodes. -/
structure Builder where
  tokens : List Token
  graph : Graph
  /-- The places of the nodes under their anchors. -/
  anchors : List (String × Nat)
  /-- What each handle of a tag stands for. -/
  handles : List (String × String)

namespace Builder

/-- The next unit. -/
def head (b : Builder) : Token := b.tokens.headD .streamEnd

/-- The builder behind the next unit. -/
def next (b : Builder) : Builder := { b with tokens := b.tokens.drop 1 }

/-- The failure of a row that cannot go on with the next unit. -/
def failure (b : Builder) : Failure :=
  match b.head with
  | .broken cause => cause
  | _ => .malformed

/-- Whether the text is broken off here. -/
def isBroken (b : Builder) : Bool :=
  match b.head with
  | .broken _ => true
  | _ => false

/-- The builder behind a unit that has to come next. -/
def expect (t : Token) (b : Builder) : Except Failure Builder :=
  if b.head = t then .ok b.next else .error b.failure

/-- Puts a node under an anchor. -/
def bind (b : Builder) (anchor : Option String) (place : Nat) : Builder :=
  match anchor with
  | some name => { b with anchors := (name, place) :: b.anchors }
  | none => b

/-- The place of the node under an anchor. -/
def lookup (b : Builder) (name : String) : Option Nat :=
  (b.anchors.find? fun (n, _) => n == name).map Prod.snd

/-- A new node under an anchor, and the builder with it. -/
def add (b : Builder) (anchor : Option String) (n : Node) : Nat × Builder :=
  let (place, graph) := b.graph.add n
  (place, { b with graph }.bind anchor place)

/-- The builder with another node at a place. -/
def put (b : Builder) (place : Nat) (n : Node) : Builder :=
  { b with graph := b.graph.put place n }

/-- The scalar without text as a node. -/
def addBlank (b : Builder) : Nat × Builder := b.add none .blank

/-! ## Properties of a node -/

/-- The anchor and the tag in front of a node. -/
structure Properties where
  anchor : Option String
  tag : Option (Option String × String)

/-- The anchor and the tag that come next, in either order. -/
def properties (b : Builder) : Properties × Builder :=
  match b.tokens with
  | .anchor a :: .tag h s :: rest => (⟨some a, some (h, s)⟩, { b with tokens := rest })
  | .tag h s :: .anchor a :: rest => (⟨some a, some (h, s)⟩, { b with tokens := rest })
  | .anchor a :: rest => (⟨some a, none⟩, { b with tokens := rest })
  | .tag h s :: rest => (⟨none, some (h, s)⟩, { b with tokens := rest })
  | _ => (⟨none, none⟩, b)

/-- The full name of a tag; a handle has to be known. -/
def tagName (b : Builder) : Option (Option String × String) → Option (Option String)
  | none => some none
  | some (none, suffix) => some (some suffix)
  | some (some handle, suffix) =>
    (b.handles.find? fun (h, _) => h == handle).map fun (_, start) => some (start ++ suffix)

/-- The tag of a node: that of its name, or one that the node itself suggests where there is no
name or only an exclamation mark. -/
def tagOr (name : Option String) (suggested : Tag) : Tag :=
  match name with
  | none => suggested
  | some n => if n = "!" then suggested else Tag.ofName n

/-- A scalar of a unit: an exclamation mark takes even a quoted text as a word. -/
def scalarNode (name : Option String) (text : Text) (plain : Bool) : Node :=
  let word := name == some "!" || plain
  .scalar (tagOr name (if word then Tag.ofWord text else .str)) text

/-- The anchor and the name of the tag of the node that comes next, and the builder behind them.  A
tag alone is only looked up once the unit behind it is there, and an anchor must be a new one. -/
def open? (b : Builder) : Except Failure ((Properties × Option String) × Builder) := do
  let (props, b) := b.properties
  if props.anchor.isNone && b.isBroken then .error b.failure
  else match b.tagName props.tag with
    | none => .error .malformed
    | some name =>
      if b.isBroken then .error b.failure
      else if (props.anchor.bind b.lookup).isSome then .error .malformed
      else return ((props, name), b)

/-! ## Nodes -/

mutual

/-- The node that comes next; `block` says whether it may be a block, and `bare` whether items may
follow without a block of their own. -/
def node (block bare : Bool) : Nat → Builder → Except Failure (Nat × Builder)
  | 0, _ => .error .malformed
  | fuel + 1, b =>
    match b.head with
    | .alias name =>
      match b.lookup name with
      | some place => .ok (place, b.next)
      | none => .error .malformed
    | _ => do
      let ((props, name), b) ← b.open?
      let given := props.anchor.isSome || props.tag.isSome
      let absent : Except Failure (Nat × Builder) :=
        if given then .ok (b.add props.anchor (scalarNode (some (name.getD "!")) [] true))
        else .error b.failure
      let sequence (items : Builder → Except Failure (List Nat × Builder)) (b : Builder) :
          Except Failure (Nat × Builder) := do
        let (place, b) := b.add props.anchor (.sequence (tagOr name .seq) [])
        let (items, b) ← items b
        return (place, b.put place (.sequence (tagOr name .seq) items))
      let mapping (entries : Builder → Except Failure (List (Nat × Nat) × Builder))
          (b : Builder) : Except Failure (Nat × Builder) := do
        let (place, b) := b.add props.anchor (.mapping (tagOr name .map) [])
        let (entries, b) ← entries b
        return (place, b.put place (.mapping (tagOr name .map) entries))
      match b.head with
      | .blockEntry => if bare then sequence (bareItems fuel) b else absent
      | .scalar text plain =>
        .ok (b.next.add props.anchor (scalarNode name text (plain && name.isNone)))
      | .flowSequenceStart => sequence (flowItems true fuel) b.next
      | .flowMappingStart => mapping (flowEntries true fuel) b.next
      | .blockSequenceStart => if block then sequence (blockItems fuel) b.next else absent
      | .blockMappingStart => if block then mapping (blockEntries fuel) b.next else absent
      | _ => absent

/-- The items of a block sequence, up to its end. -/
def blockItems : Nat → Builder → Except Failure (List Nat × Builder)
  | 0, _ => .error .malformed
  | fuel + 1, b =>
    match b.head with
    | .blockEntry => do
      let b := b.next
      let (item, b) ← match b.head with
        | .blockEntry => .ok b.addBlank
        | .blockEnd => .ok b.addBlank
        | _ => node true false fuel b
      let (items, b) ← blockItems fuel b
      return (item :: items, b)
    | .blockEnd => .ok ([], b.next)
    | _ => .error b.failure

/-- The items of a sequence without a block of its own, up to the first unit that is none. -/
def bareItems : Nat → Builder → Except Failure (List Nat × Builder)
  | 0, _ => .error .malformed
  | fuel + 1, b =>
    match b.head with
    | .blockEntry => do
      let b := b.next
      let (item, b) ← match b.head with
        | .blockEntry => .ok b.addBlank
        | .key => .ok b.addBlank
        | .value => .ok b.addBlank
        | .blockEnd => .ok b.addBlank
        | _ => node true false fuel b
      let (items, b) ← bareItems fuel b
      return (item :: items, b)
    | _ => .ok ([], b)

/-- A key or a value of a block mapping, which may be missing. -/
def blockPart : Nat → Builder → Except Failure (Nat × Builder)
  | 0, _ => .error .malformed
  | fuel + 1, b =>
    match b.head with
    | .key => .ok b.addBlank
    | .value => .ok b.addBlank
    | .blockEnd => .ok b.addBlank
    | _ => node true true fuel b

/-- The entries of a block mapping, up to its end. -/
def blockEntries : Nat → Builder → Except Failure (List (Nat × Nat) × Builder)
  | 0, _ => .error .malformed
  | fuel + 1, b =>
    match b.head with
    | .key => do
      let (key, b) ← blockPart fuel b.next
      let (value, b) ← match b.head with
        | .value => blockPart fuel b.next
        | _ => .ok b.addBlank
      let (entries, b) ← blockEntries fuel b
      return ((key, value) :: entries, b)
    | .blockEnd => .ok ([], b.next)
    | _ => .error b.failure

/-- A key between brackets, which may be missing, and the value behind it, which may be too. -/
def flowPair (close : Token) : Nat → Builder → Except Failure ((Nat × Nat) × Builder)
  | 0, _ => .error .malformed
  | fuel + 1, b => do
    let (key, b) ←
      if b.head = .value ∨ b.head = .flowEntry ∨ b.head = close then .ok b.addBlank
      else node false false fuel b
    let (value, b) ←
      if b.head ≠ .value then .ok b.addBlank
      else
        let b := b.next
        if b.head = .flowEntry ∨ b.head = close then .ok b.addBlank
        else node false false fuel b
    return ((key, value), b)

/-- The items of a bracketed sequence, up to its end. -/
def flowItems (first : Bool) : Nat → Builder → Except Failure (List Nat × Builder)
  | 0, _ => .error .malformed
  | fuel + 1, b => do
    if b.head = .flowSequenceEnd then return ([], b.next)
    else
      let b ← if first then .ok b else b.expect .flowEntry
      if b.head = .flowSequenceEnd then return ([], b.next)
      else
        let (item, b) ←
          if b.head = .key then do
            let (place, b) := b.next.add none (.mapping .map [])
            let (entry, b) ← flowPair .flowSequenceEnd fuel b
            .ok (place, b.put place (.mapping .map [entry]))
          else node false false fuel b
        let (items, b) ← flowItems false fuel b
        return (item :: items, b)

/-- The entries of a bracketed mapping, up to its end. -/
def flowEntries (first : Bool) : Nat → Builder → Except Failure (List (Nat × Nat) × Builder)
  | 0, _ => .error .malformed
  | fuel + 1, b => do
    if b.head = .flowMappingEnd then return ([], b.next)
    else
      let b ← if first then .ok b else b.expect .flowEntry
      if b.head = .flowMappingEnd then return ([], b.next)
      else
        let (entry, b) ←
          if b.head = .key then flowPair .flowMappingEnd fuel b.next
          else do
            let (key, b) ← node false false fuel b
            let (value, b) := b.addBlank
            .ok ((key, value), b)
        let (entries, b) ← flowEntries false fuel b
        return (entry :: entries, b)

end

/-! ## Documents -/

/-- The handles that every document has. -/
def standardHandles : List (String × String) := [("!", "!"), ("!!", Tag.common)]

/-- The directives ahead, each handle once and one version at most, which has to be a first one;
and the units behind them. -/
def directives (versioned : Bool) (handles : List (String × String)) :
    List Token → Option (List (String × String) × List Token)
  | .version major :: rest =>
    if versioned || major != 1 then none else directives true handles rest
  | .tagHandle handle start :: rest =>
    if handles.any fun (h, _) => h == handle then none
    else directives versioned (handles ++ [(handle, start)]) rest
  | .otherDirective :: rest => directives versioned handles rest
  | rest => some (handles ++ standardHandles, rest)

/-- A builder of the nodes of a document. -/
def start (handles : List (String × String)) (tokens : List Token) : Builder where
  tokens := tokens
  graph := .empty
  anchors := []
  handles := handles

/-- The directives ahead and the mark of a document behind them, and a builder of that document. -/
def explicitStart (tokens : List Token) : Except Failure Builder :=
  match directives false [] tokens with
  | none => .error .malformed
  | some (handles, rest) => (start handles rest).expect .documentStart

/-- Whether a unit begins or ends a document. -/
def isBorder : Token → Bool
  | .version _ => true
  | .tagHandle .. => true
  | .otherDirective => true
  | .documentStart => true
  | .documentEnd => true
  | .streamEnd => true
  | _ => false

/-- The first node of a document; one with a mark in front may be missing. -/
def root (explicit : Bool) (b : Builder) : Except Failure (Nat × Builder) :=
  if explicit && isBorder b.head then .ok b.addBlank
  else node true false (4 * b.tokens.length + 8) b

/-- Whether nothing follows but ends of documents; a second document is refused once it begins. -/
def finish (b : Builder) : Except Failure Unit :=
  match b.tokens.dropWhile (· == .documentEnd) with
  | [.streamEnd] => .ok ()
  | rest =>
    match explicitStart rest with
    | .ok _ => .error .malformed
    | .error f => .error f

end Builder

/-- The graph of a row of units and the place of its first node: none if there is no document.
There must not be more than one. -/
def Graph.ofTokens (tokens : List Token) : Except Failure (Option (Graph × Nat)) := do
  match tokens with
  | [.streamEnd] => return none
  | first :: _ =>
    let explicit := Builder.isBorder first && first != .documentEnd
    let b ← if explicit then Builder.explicitStart tokens
      else .ok (Builder.start Builder.standardHandles tokens)
    let (place, b) ← Builder.root explicit b
    b.finish
    return some (b.graph, place)
  | [] => .error .malformed

end Chip8.Document

import CommandPalette.Yaml.Tag
import CommandPalette.Yaml.Token

/-!
# From tokens to nodes

The tokens of a document make up nodes.  A node may be named by an anchor, and an alias stands for the
node of that name, even inside that very node.  So nodes are numbered, and the parts of a node are given
by their numbers.

* `Node`: the nodes.
* `Document`: the numbered nodes of a document; `Document.node` is the one of a number.
* `Assembly`: what is left of the tokens, and the nodes so far.
* `Document.ofTokens?`: the only document of a stream.
-/

namespace CommandPalette.Yaml

/-- A node of a document. -/
inductive Node where
  | scalar (tag : Tag) (text : String)
  | sequence (tag : Tag) (items : List Nat)
  | mapping (tag : Tag) (entries : List (Nat × Nat))
  deriving Inhabited, Repr

/-- The node where nothing is written. -/
def Node.empty : Node := .scalar .null ""

/-- The tag of a node. -/
def Node.tag : Node → Tag
  | scalar tag _ => tag
  | sequence tag _ => tag
  | mapping tag _ => tag

/-- The entries of a node; a node that is no mapping has none. -/
def Node.entries : Node → List (Nat × Nat)
  | mapping _ entries => entries
  | _ => []

/-- The numbered nodes of a document. -/
structure Document where
  nodes : Array Node := #[]
  /-- The number of the node that the others are parts of. -/
  root : Nat := 0
  deriving Inhabited, Repr

/-- The node of a number. -/
def Document.node (d : Document) (number : Nat) : Node := d.nodes.getD number .empty

/-- A document with another node in the place of one. -/
def Document.set (d : Document) (number : Nat) (node : Node) : Document :=
  { d with nodes := d.nodes.setIfInBounds number node }

/-- What is left of the tokens, and the nodes so far. -/
structure Assembly where
  tokens : List Token
  /-- What stops the reader after the tokens. -/
  stop : Option Fault := none
  document : Document := {}
  /-- The numbers of the named nodes. -/
  anchors : List (String × Nat) := []
  /-- The handles of tags. -/
  handles : List (String × String) := []

/-- A step of putting nodes together. -/
abbrev Assemble := StateT Assembly (Except Fault)

namespace Assembly

/-- The next token. -/
def peek : Assemble (Option Token) := do
  let c ← get
  match c.tokens, c.stop with
  | [], some fault => throw fault
  | tokens, _ => return tokens.head?

/-- Past the next token. -/
def advance : Assemble Unit := modify fun c => { c with tokens := c.tokens.drop 1 }

/-- The tokens are not those of a document. -/
def refuse {α : Type} (words : String) : Assemble α := throw (.structural words)

/-- Whether the next token is one of the given ones. -/
def sees (ts : List Token) : Assemble Bool := do
  match ← peek with
  | some t => return ts.contains t
  | none => return false

/-! ## Properties -/

/-- The anchor here. -/
def anchor? : Assemble (Option String) := do
  match ← peek with
  | some (.anchor name) =>
    advance
    return some name
  | _ => return none

/-- The tag here, as it is written. -/
def tag? : Assemble (Option (Option String × String)) := do
  match ← peek with
  | some (.tag handle rest) =>
    advance
    return some (handle, rest)
  | _ => return none

/-- A tag with its handle replaced by what it stands for. -/
def fullTag : Option (Option String × String) → Assemble (Option String)
  | none => return none
  | some (none, rest) => return some rest
  | some (some handle, rest) => do
    match (← get).handles.lookup handle with
    | some meaning => return some (meaning ++ rest)
    | none => refuse "the handle of a tag is not known"

/-- The anchor and the tag here, which may come in either order. -/
def properties : Assemble (Option String × Option String) := do
  let early ← anchor?
  let tag ← tag?
  let late ← if early.isNone && tag.isSome then anchor? else pure none
  return (early.or late, ← fullTag tag)

/-- The number of the node of a name. -/
def aliased (name : String) : Assemble Nat := do
  match (← get).anchors.lookup name with
  | some number => return number
  | none => refuse "an alias has no anchor"

/-- Refuses a name that is given already. -/
def checkName (name : Option String) : Assemble Unit := do
  if let some name := name then
    if ((← get).anchors.lookup name).isSome then refuse "an anchor is given twice"

/-- The tag of a scalar. -/
def scalarTag (tag : Option String) (text : String) (plain : Bool) : Tag :=
  match tag with
  | none => if plain then .ofPlain text else .text
  | some "!" => .ofPlain text
  | some name => .ofName name

/-- The tag of a node that is not a scalar. -/
def collectionTag (tag : Option String) (usual : Tag) : Tag :=
  match tag with
  | none => usual
  | some "!" => usual
  | some name => .ofName name

/-! ## Nodes -/

/-- Adds a node, which may have a name; the result is its number. -/
def add (name : Option String) (node : Node) : Assemble Nat := do
  let number := (← get).document.nodes.size
  modify fun c =>
    { c with
      document := { c.document with nodes := c.document.nodes.push node }
      anchors := (name.map (·, number)).toList ++ c.anchors }
  return number

/-- Puts a node in the place of a number. -/
def fill (number : Nat) (node : Node) : Assemble Unit :=
  modify fun c => { c with document := c.document.set number node }

/-- Adds a list with the items that are read next.  It can be one of them. -/
def addSequence (name tag : Option String) (items : Assemble (List Nat)) : Assemble Nat := do
  let number ← add name .empty
  fill number (.sequence (collectionTag tag .sequence) (← items))
  return number

/-- Adds a mapping with the entries that are read next.  It can be a part of them. -/
def addMapping (name tag : Option String) (entries : Assemble (List (Nat × Nat))) :
    Assemble Nat := do
  let number ← add name .empty
  fill number (.mapping (collectionTag tag .mapping) (← entries))
  return number

/-- Adds a scalar. -/
def addScalar (name tag : Option String) (text : String) (plain : Bool) : Assemble Nat :=
  add name (.scalar (scalarTag tag text plain) text)

/-- Adds the node where nothing is written, which needs a name or a tag. -/
def nothing (name tag : Option String) : Assemble Nat :=
  if name.isNone && tag.isNone then refuse "a node was expected" else addScalar name tag "" true

/-- The comma between two items. -/
def comma : Assemble Unit := do
  if ← sees [.flowEntry] then advance else refuse "a comma or a closing bracket was expected"

mutual

/-- The node here.  Between brackets there are no blocks; the value of an entry may be a list that is
not indented. -/
def node (inBlock flush : Bool) : Nat → Assemble Nat
  | 0 => refuse "a document is nested too deeply"
  | fuel + 1 => do
    if let some (.reference name) ← peek then
      advance
      return ← aliased name
    let (name, tag) ← properties
    let next ← peek
    checkName name
    match next with
    | some (.scalar text plain) =>
      advance
      addScalar name tag text plain
    | some .flowSequenceStart =>
      advance
      addSequence name tag (flowItems true fuel)
    | some .flowMappingStart =>
      advance
      addMapping name tag (flowEntries true fuel)
    | some .blockEntry =>
      if flush then addSequence name tag (flushItems fuel) else nothing name tag
    | some .blockSequenceStart =>
      if !inBlock then nothing name tag
      else
        advance
        addSequence name tag (blockItems fuel)
    | some .blockMappingStart =>
      if !inBlock then nothing name tag
      else
        advance
        addMapping name tag (blockEntries fuel)
    | _ => nothing name tag

/-- A node, or nothing before one of the given tokens. -/
def nodeUnless (ends : List Token) (inBlock flush : Bool) : Nat → Assemble Nat
  | 0 => refuse "a document is nested too deeply"
  | fuel + 1 => do
    if ← sees ends then add none .empty else node inBlock flush fuel

/-- The items of a list in a block of its own. -/
def blockItems : Nat → Assemble (List Nat)
  | 0 => refuse "a document is nested too deeply"
  | fuel + 1 => do
    match ← peek with
    | some .blockEntry =>
      advance
      let item ← nodeUnless [.blockEntry, .blockEnd] true false fuel
      return item :: (← blockItems fuel)
    | some .blockEnd =>
      advance
      return []
    | _ => refuse "the end of a list was expected"

/-- The items of a list that is not indented. -/
def flushItems : Nat → Assemble (List Nat)
  | 0 => refuse "a document is nested too deeply"
  | fuel + 1 => do
    match ← peek with
    | some .blockEntry =>
      advance
      let item ← nodeUnless [.blockEntry, .key, .value, .blockEnd] true false fuel
      return item :: (← flushItems fuel)
    | _ => return []

/-- The entries of a mapping in a block of its own. -/
def blockEntries : Nat → Assemble (List (Nat × Nat))
  | 0 => refuse "a document is nested too deeply"
  | fuel + 1 => do
    match ← peek with
    | some .key =>
      advance
      let key ← nodeUnless [.key, .value, .blockEnd] true true fuel
      let value ← valueUnless [.key, .value, .blockEnd] true true fuel
      return (key, value) :: (← blockEntries fuel)
    | some .blockEnd =>
      advance
      return []
    | _ => refuse "the end of a mapping was expected"

/-- The value after a key, if there is one. -/
def valueUnless (ends : List Token) (inBlock flush : Bool) : Nat → Assemble Nat
  | 0 => refuse "a document is nested too deeply"
  | fuel + 1 => do
    if ← sees [.value] then
      advance
      nodeUnless ends inBlock flush fuel
    else add none .empty

/-- The items of a list in brackets. -/
def flowItems (isFirst : Bool) : Nat → Assemble (List Nat)
  | 0 => refuse "a document is nested too deeply"
  | fuel + 1 => do
    if ← sees [.flowSequenceEnd] then
      advance
      return []
    if !isFirst then comma
    if ← sees [.key] then
      advance
      let item ← addMapping none none do
        let key ← nodeUnless [.value, .flowEntry, .flowSequenceEnd] false false fuel
        return [(key, ← valueUnless [.flowEntry, .flowSequenceEnd] false false fuel)]
      return item :: (← flowItems false fuel)
    else if ← sees [.flowSequenceEnd] then
      advance
      return []
    else
      let item ← node false false fuel
      return item :: (← flowItems false fuel)

/-- The entries of a mapping in brackets. -/
def flowEntries (isFirst : Bool) : Nat → Assemble (List (Nat × Nat))
  | 0 => refuse "a document is nested too deeply"
  | fuel + 1 => do
    if ← sees [.flowMappingEnd] then
      advance
      return []
    if !isFirst then comma
    if ← sees [.key] then
      advance
      let key ← nodeUnless [.value, .flowEntry, .flowMappingEnd] false false fuel
      let value ← valueUnless [.flowEntry, .flowMappingEnd] false false fuel
      return (key, value) :: (← flowEntries false fuel)
    else if ← sees [.flowMappingEnd] then
      advance
      return []
    else
      let key ← node false false fuel
      return (key, ← add none .empty) :: (← flowEntries false fuel)

end

/-! ## Documents -/

/-- The handles that every document has. -/
def usualHandles : List (String × String) := [("!", "!"), ("!!", coreHandle)]

/-- The directives of a document; `versioned` says whether a version was stated already. -/
def directives (versioned : Bool) : Nat → Assemble Unit
  | 0 => refuse "a document has too many directives"
  | fuel + 1 => do
    match ← peek with
    | some (.directive d) =>
      advance
      match d with
      | .version major _ =>
        if versioned then refuse "a version is stated twice"
        if major ≠ 1 then refuse "the version is not known"
        directives true fuel
      | .handle name meaning =>
        if ((← get).handles.lookup name).isSome then refuse "a handle is introduced twice"
        modify fun c => { c with handles := (name, meaning) :: c.handles }
        directives versioned fuel
      | .other => directives versioned fuel
    | _ => return ()

/-- Past the marks at the end of a document. -/
def pastEnds : Assemble Unit :=
  modify fun c => { c with tokens := c.tokens.dropWhile (· == .documentEnd) }

/-- Whether a document starts with directives or a mark. -/
def startsExplicitly : Assemble Bool := do
  match ← peek with
  | some (.directive _) => return true
  | some .documentStart => return true
  | _ => return false

/-- The node of a document that starts with directives or a mark. -/
def explicitDocument (fuel : Nat) : Assemble Nat := do
  directives false fuel
  if !(← sees [.documentStart]) then refuse "the start of a document was expected"
  advance
  modify fun c => { c with handles := c.handles ++ usualHandles }
  if (← peek).isNone || (← startsExplicitly) || (← sees [.documentEnd]) then add none .empty
  else node true false fuel

/-- The only document of a stream; a stream may have none. -/
def single : Assemble (Option Document) := do
  let fuel := 4 * (← get).tokens.length + 4
  if (← peek).isNone then return none
  let root ← if ← startsExplicitly then explicitDocument fuel
    else do
      modify fun c => { c with handles := usualHandles }
      node true false fuel
  pastEnds
  if (← peek).isSome then
    modify fun c => { c with handles := [] }
    directives false fuel
    if (← sees [.documentStart]) then refuse "there is more than one document"
    refuse "the start of a document was expected"
  return some { (← get).document with root }

end Assembly

/-- The only document of a stream of tokens. -/
def Document.ofTokens? (s : TokenStream) : Except Fault (Option Document) :=
  (Assembly.single.run { tokens := s.tokens, stop := s.stop }).map (·.1)

end CommandPalette.Yaml

import ApiClient.Yaml.Node
import ApiClient.Yaml.Token

/-!
# Composition of nodes

The tokens of a text as a table of nodes. An alias is another name for the node that its anchor
marks, also inside that node itself.
-/

namespace ApiClient.Yaml

/-- The state of composing: the tokens that remain, the prefixes of tag handles, the nodes of
anchors, the lists and maps that are still open, and the nodes so far. -/
structure Composer where
  tokens : List Token
  handles : List (String × String)
  anchors : List (String × Nat)
  around : List Nat
  nodes : Graph
  /-- Whether a node stands inside itself. -/
  recursive : Bool

abbrev Compose := StateT Composer (Except Refusal)

namespace Compose

/-- The next token; a fault carried by it is met as soon as it is looked at. -/
def peek : Compose Token := do
  match (← get).tokens with
  | [] => throw .malformed
  | .invalid why :: _ => throw why
  | t :: _ => return t

def skip : Compose Unit := modify fun c => { c with tokens := c.tokens.drop 1 }

def refuse {α : Type} : Compose α := throw .malformed

/-- Adds a node, under its anchor if it has one. -/
def add (anchor : Option String) (n : Node) : Compose Nat :=
  modifyGet fun c =>
    let i := c.nodes.size
    (i, { c with nodes := c.nodes.push n, anchors := (anchor.map (·, i)).toList ++ c.anchors })

/-- An absent node is null. -/
def emptyNode : Compose Nat := add none ⟨.null, .scalar ""⟩

/-- The full tag that a written one stands for. -/
def expand (t : TagName) : Compose String := do
  match t.handle with
  | none => return t.suffix
  | some handle =>
    match (← get).handles.lookup handle with
    | some beginning => return beginning ++ t.suffix
    | none => refuse

/-- The tag and the anchor before a node, in either order. -/
def properties : Compose (Option String × Option String) := do
  match ← peek with
  | .anchor name =>
    skip
    match ← peek with
    | .tag t =>
      skip
      return (some (← expand t), some name)
    | _ => return (none, some name)
  | .tag t =>
    skip
    match ← peek with
    | .anchor name =>
      skip
      return (some (← expand t), some name)
    | _ => return (some (← expand t), none)
  | _ => return (none, none)

/-- The kind of a scalar. The tag `!` asks for the kind of a plain one. -/
def scalarTag (tag : Option String) (plain : Bool) (text : String) : Tag :=
  match tag with
  | none => if plain then .ofPlain text else .text
  | some "!" => .ofPlain text
  | some name => .ofName name

/-- The kind of a list or map. -/
def collectionTag (tag : Option String) (default : Tag) : Tag :=
  match tag with
  | none | some "!" => default
  | some name => .ofName name

/-- An anchor must be new. -/
def requireNew (anchor : Option String) : Compose Unit := do
  if let some name := anchor then
    if ((← get).anchors.lookup name).isSome then refuse

/-- Adds a list or map, whose content is read while it is open. -/
def collection (anchor : Option String) (tag : Tag) (content : Compose NodeContent) :
    Compose Nat := do
  let i ← add anchor ⟨tag, .list []⟩
  modify fun c => { c with around := i :: c.around }
  let content ← content
  modify fun c => { c with around := c.around.drop 1, nodes := c.nodes.setContent i content }
  return i

/-- The node of an alias. -/
def aliasNode (name : String) : Compose Nat := do
  match (← get).anchors.lookup name with
  | none => refuse
  | some i =>
    modify fun c => { c with recursive := c.recursive || c.around.contains i }
    return i

mutual

/-- Reads a node. Inside brackets there are no blocks; the value of a key may be a sequence that
is not indented. The fuel bounds the calls and is never used up. -/
def node (block indentless : Bool) : Nat → Compose Nat
  | 0 => refuse
  | fuel + 1 => do
    if let .aliasOf name ← peek then
      skip
      return ← aliasNode name
    let (tag, anchor) ← properties
    let _ ← peek
    requireNew anchor
    content block indentless tag anchor fuel

/-- Reads what follows the tag and the anchor of a node. -/
def content (block indentless : Bool) (tag anchor : Option String) : Nat → Compose Nat
  | 0 => refuse
  | fuel + 1 => do
    match ← peek with
    | .blockEntry =>
      if indentless then
        collection anchor (collectionTag tag .list) (NodeContent.list <$> indentlessItems fuel)
      else absent tag anchor
    | .scalar text plain =>
      skip
      add anchor ⟨scalarTag tag plain text, .scalar text⟩
    | .flowSequenceStart =>
      skip
      collection anchor (collectionTag tag .list) (NodeContent.list <$> flowItems true fuel)
    | .flowMappingStart =>
      skip
      collection anchor (collectionTag tag .map) (NodeContent.map <$> flowEntries true fuel)
    | .blockSequenceStart =>
      if !block then return ← absent tag anchor
      skip
      collection anchor (collectionTag tag .list) (NodeContent.list <$> blockItems fuel)
    | .blockMappingStart =>
      if !block then return ← absent tag anchor
      skip
      collection anchor (collectionTag tag .map) (NodeContent.map <$> blockEntries fuel)
    | _ => absent tag anchor

/-- An empty scalar, which only a tag or an anchor may announce. -/
def absent (tag anchor : Option String) : Compose Nat := do
  if tag.isNone && anchor.isNone then refuse
  add anchor ⟨scalarTag tag true "", .scalar ""⟩

def blockItems : Nat → Compose (List Nat)
  | 0 => refuse
  | fuel + 1 => do
    match ← peek with
    | .blockEntry =>
      skip
      let item ← match ← peek with
        | .blockEntry | .blockEnd => emptyNode
        | _ => node true false fuel
      return item :: (← blockItems fuel)
    | .blockEnd =>
      skip
      return []
    | _ => refuse

def indentlessItems : Nat → Compose (List Nat)
  | 0 => refuse
  | fuel + 1 => do
    match ← peek with
    | .blockEntry =>
      skip
      let item ← match ← peek with
        | .blockEntry | .key | .value | .blockEnd => emptyNode
        | _ => node true false fuel
      return item :: (← indentlessItems fuel)
    | _ => return []

/-- Reads a key or a value of a block mapping, right after its mark. -/
def blockPart : Nat → Compose Nat
  | 0 => refuse
  | fuel + 1 => do
    match ← peek with
    | .key | .value | .blockEnd => emptyNode
    | _ => node true true fuel

def blockEntries : Nat → Compose (List (Nat × Nat))
  | 0 => refuse
  | fuel + 1 => do
    match ← peek with
    | .blockEnd =>
      skip
      return []
    | .key =>
      skip
      let key ← blockPart fuel
      let value ← match ← peek with
        | .value => do
          skip
          blockPart fuel
        | _ => emptyNode
      return (key, value) :: (← blockEntries fuel)
    | _ => refuse

/-- Skips the comma before an entry that is not the first. -/
def comma (first : Bool) : Compose Unit := do
  if first then return
  match ← peek with
  | .flowEntry => skip
  | _ => refuse

/-- Reads the value after a key in brackets. -/
def flowValue : Nat → Compose Nat
  | 0 => refuse
  | fuel + 1 => do
    match ← peek with
    | .value =>
      skip
      match ← peek with
      | .flowEntry | .flowSequenceEnd | .flowMappingEnd => emptyNode
      | _ => node false false fuel
    | _ => emptyNode

/-- Reads the key after its mark in brackets. -/
def flowKey : Nat → Compose Nat
  | 0 => refuse
  | fuel + 1 => do
    match ← peek with
    | .value | .flowEntry | .flowSequenceEnd | .flowMappingEnd => emptyNode
    | _ => node false false fuel

def flowItems (first : Bool) : Nat → Compose (List Nat)
  | 0 => refuse
  | fuel + 1 => do
    if let .flowSequenceEnd ← peek then
      skip
      return []
    comma first
    match ← peek with
    | .key =>
      skip
      let item ← collection none .map do
        let key ← flowKey fuel
        return .map [(key, ← flowValue fuel)]
      return item :: (← flowItems false fuel)
    | .flowSequenceEnd =>
      skip
      return []
    | _ =>
      let item ← node false false fuel
      return item :: (← flowItems false fuel)

def flowEntries (first : Bool) : Nat → Compose (List (Nat × Nat))
  | 0 => refuse
  | fuel + 1 => do
    if let .flowMappingEnd ← peek then
      skip
      return []
    comma first
    match ← peek with
    | .key =>
      skip
      let key ← flowKey fuel
      let value ← flowValue fuel
      return (key, value) :: (← flowEntries false fuel)
    | .flowMappingEnd =>
      skip
      return []
    | _ =>
      let key ← node false false fuel
      let value ← emptyNode
      return (key, value) :: (← flowEntries false fuel)

end

/-- The prefixes that every document knows. -/
def standardHandles : List (String × String) := [("!", "!"), ("!!", "tag:yaml.org,2002:")]

/-- Reads the directives before a document. -/
def directives : Nat → Bool → List (String × String) → Compose Unit
  | 0, _, _ => refuse
  | fuel + 1, versioned, handles => do
    match ← peek with
    | .directive (.version major) =>
      if versioned || major ≠ 1 then refuse
      skip
      directives fuel true handles
    | .directive (.handle name expansion) =>
      if (handles.lookup name).isSome then refuse
      skip
      directives fuel versioned (handles ++ [(name, expansion)])
    | .directive .other =>
      skip
      directives fuel versioned handles
    | _ => modify fun c => { c with handles := handles ++ standardHandles }

def skipDocumentEnds : Nat → Compose Unit
  | 0 => return
  | fuel + 1 => do
    if let .documentEnd ← peek then
      skip
      skipDocumentEnds fuel

/-- Reads what announces an explicit document, and says whether one begins. -/
def explicitStart (fuel : Nat) : Compose Bool := do
  skipDocumentEnds fuel
  if let .streamEnd ← peek then return false
  directives fuel false []
  match ← peek with
  | .documentStart =>
    skip
    return true
  | _ => refuse

/-- The root node of an explicit document, if there is one. -/
def explicitDocument (fuel : Nat) : Compose (Option Nat) := do
  if !(← explicitStart fuel) then return none
  match ← peek with
  | .directive _ | .documentStart | .documentEnd | .streamEnd => some <$> emptyNode
  | _ => some <$> node true false fuel

/-- The root node of the only document of a text, if there is one. -/
def root (fuel : Nat) : Compose (Option Nat) := do
  let first ← match ← peek with
    | .directive _ | .documentStart | .streamEnd => explicitDocument fuel
    | _ => some <$> node true false fuel
  if first.isNone then return none
  if let .documentEnd ← peek then skip
  if ← explicitStart fuel then refuse
  return first

end Compose

/-- The document that tokens make up: its root node and all nodes. -/
structure Composition where
  root : Nat
  nodes : Graph
  recursive : Bool

def Composition.ofTokens? (ts : List Token) : Except Refusal (Option Composition) := do
  let (root, c) ← (Compose.root (4 * ts.length + 8)).run {
    tokens := ts, handles := Compose.standardHandles, anchors := [], around := [], nodes := #[]
    recursive := false }
  return root.map fun root => { root, nodes := c.nodes, recursive := c.recursive }

end ApiClient.Yaml

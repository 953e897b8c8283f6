import ApiClient.Yaml.Scalar

/-!
# Nodes of a document

The nodes of a document in a table. A node names the nodes inside it by their numbers, so that
one node may stand in several places, and even inside itself. Merge keys are worked in here: the
entries of a map that is merged into another come before its own.
-/

namespace ApiClient.Yaml

inductive NodeContent where
  | scalar (text : String)
  | list (items : List Nat)
  | map (entries : List (Nat × Nat))

structure Node where
  tag : Tag
  content : NodeContent

def Node.entries (n : Node) : List (Nat × Nat) :=
  match n.content with
  | .map entries => entries
  | _ => []

/-- The nodes of a document by their numbers. -/
abbrev Graph := Array Node

namespace Graph

def node (g : Graph) (i : Nat) : Node := g.getD i ⟨.null, .scalar ""⟩

def tag (g : Graph) (i : Nat) : Tag := (g.node i).tag

def setContent (g : Graph) (i : Nat) (content : NodeContent) : Graph :=
  g.modify i fun n => { n with content }

/-- The text of a node. A map has the text of the value under its first key that is an equals
sign. -/
def scalarText (g : Graph) : Nat → Nat → Except Refusal String
  | 0, _ => .error (.fault .endless)
  | fuel + 1, i =>
    match (g.node i).content with
    | .scalar text => .ok text
    | .list _ => .error .malformed
    | .map entries =>
      match entries.find? (g.tag ·.1 = .value) with
      | some (_, v) => g.scalarText fuel v
      | none => .error .malformed

/-! ## Merge keys -/

/-- The value of the first merge key of a map, and the table without that entry. -/
def takeMerge? (g : Graph) (i : Nat) : Option (Nat × Graph) :=
  let entries := (g.node i).entries
  (entries.find? (g.tag ·.1 = .merge)).map fun (_, v) =>
    (v, g.setContent i (.map (entries.eraseP (g.tag ·.1 = .merge))))

/-- The keys of entries that are an equals sign become texts. -/
def relabelKeys (g : Graph) (entries : List (Nat × Nat)) : Graph :=
  entries.foldl (fun g (k, _) =>
    g.modify k fun n => if n.tag = .value then { n with tag := .text } else n) g

/-- Puts entries before those of a map, whose own keys are no signs any more. -/
def prepend (g : Graph) (i : Nat) (added : List (Nat × Nat)) : Graph :=
  let own := (g.node i).entries
  (g.relabelKeys own).setContent i (.map (added ++ own))

/-- The number of merge keys of all maps. -/
def mergeCount (g : Graph) : Nat :=
  g.foldl (fun n node => n + node.entries.countP fun e => g.tag e.1 = .merge) 0

end Graph

abbrev Merging := StateT Graph (Except Refusal)

mutual

/-- Works the merge keys of a map in. Every key is taken out before the maps under it are merged
in their turn, so that a map may be merged into itself; the keys that are left bound the calls. -/
def mergeKeys (i : Nat) : Nat → Merging Unit
  | 0 => throw .malformed
  | fuel + 1 => do
    let added ← addedEntries i fuel
    modify (·.prepend i added)

/-- The entries that the merge keys of a map add, in the order of the keys. -/
def addedEntries (i : Nat) : Nat → Merging (List (Nat × Nat))
  | 0 => throw .malformed
  | fuel + 1 => do
    match (← get).takeMerge? i with
    | none => return []
    | some (v, g) =>
      set g
      let entries ← mergedEntries v fuel
      return entries ++ (← addedEntries i fuel)

/-- The entries that one merge key adds: those of a map, or of several, the later ones first. -/
def mergedEntries (v : Nat) : Nat → Merging (List (Nat × Nat))
  | 0 => throw .malformed
  | fuel + 1 => do
    match ((← get).node v).content with
    | .scalar _ => throw .malformed
    | .map _ =>
      mergeKeys v fuel
      return ((← get).node v).entries
    | .list items =>
      let parts ← items.mapM fun j => do
        match ((← get).node j).content with
        | .map _ =>
          mergeKeys j fuel
          return ((← get).node j).entries
        | _ => throw .malformed
      return parts.reverse.flatten

end

end ApiClient.Yaml

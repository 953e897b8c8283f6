import ApiClient.Value.Members
import ApiClient.Yaml.Composition

/-!
# Assembly of a document's value

Scalars have their values at once. Lists and maps are made empty when they are met and wait to be
filled, in the order in which they were met, so that a fault in an outer one comes before those
in the ones inside it. What has been filled is read off in the end.
-/

namespace ApiClient.Yaml

/-- What a node has become; the parts of lists and maps are the numbers of their nodes. -/
inductive Cell where
  | value (v : Value)
  | list (items : List Nat)
  | pairs (items : List (Nat × Nat))
  | map (entries : List (Value × Nat))
  | set (members : List Value)

/-- The state of an assembly: the nodes, what has become of them, and the lists and maps met. -/
structure Assembly where
  nodes : Graph
  /-- At least the number of merge keys that are left. -/
  mergesLeft : Nat
  cells : Array (Option Cell)
  met : Array Nat

abbrev Assembling := StateT Assembly (Except Refusal)

namespace Assembling

def merging {α : Type} (work : Nat → Merging α) : Assembling α := fun ⟨nodes, left, cells, met⟩ => do
  let (a, nodes) ← work left nodes
  return (a, ⟨nodes, left, cells, met⟩)

def setCell (i : Nat) (c : Cell) : Assembling Unit :=
  modify fun a => { a with cells := a.cells.setIfInBounds i (some c) }

/-- What a list or map is at first. -/
def emptyCell? : Tag → Option Cell
  | .list => some (.list [])
  | .pairs => some (.pairs [])
  | .map => some (.map [])
  | .set => some (.set [])
  | _ => none

/-- The value of a node that is of no kind of list or map. Some kinds have none; for the others a
map may give the text, except for that of a moment. -/
def scalarOf (g : Graph) (i : Nat) : Except Refusal Value := do
  let n := g.node i
  match n.tag with
  | .merge | .value | .unknown => throw .malformed
  | tag =>
    let text ← g.scalarText (g.size + 1) i
    match tag, n.content with
    | .timestamp, .map _ => throw (.fault .unsuitable)
    | tag, _ => scalarValue tag (i + 1) text

/-- Makes what a node stands for, unless it was made before. The result is its value; a list or
map has none as yet. -/
def make (i : Nat) : Assembling (Option Value) := do
  let a ← get
  match a.cells.getD i none with
  | some (.value v) => return some v
  | some _ => return none
  | none =>
    match emptyCell? (a.nodes.tag i) with
    | some c =>
      setCell i c
      modify fun a => { a with met := a.met.push i }
      return none
    | none =>
      let v ← scalarOf a.nodes i
      setCell i (.value v)
      return some v

/-- Makes the keys and values of entries. A key that is a list or map is refused, and a later
value replaces one under the same key. -/
def makeEntries : List (Nat × Nat) → List (Value × Nat) → Assembling (List (Value × Nat))
  | [], made => return made
  | (k, v) :: entries, made => do
    match ← make k with
    | none => throw .malformed
    | some key =>
      let _ ← make v
      makeEntries entries (Value.insert made key v)

/-- The entries of a map, its merge keys worked in. -/
def mapEntries (i : Nat) : Assembling (List (Value × Nat)) := do
  match ((← get).nodes.node i).content with
  | .map _ =>
    merging fun left => mergeKeys i (4 * left + 4)
    makeEntries ((← get).nodes.node i).entries []
  | _ => throw .malformed

/-- The items of a list. -/
def listItems (i : Nat) : Assembling (List Nat) := do
  match ((← get).nodes.node i).content with
  | .list items => return items
  | _ => throw .malformed

/-- The key and the value of a map with one entry. -/
def pairOf (i : Nat) : Assembling (Nat × Nat) := do
  match ((← get).nodes.node i).content with
  | .map [(k, v)] =>
    let _ ← make k
    let _ ← make v
    return (k, v)
  | _ => throw .malformed

/-- Fills a list or map that was made empty. -/
def fill (i : Nat) : Assembling Unit := do
  match (← get).nodes.tag i with
  | .list =>
    let items ← listItems i
    items.forM fun j => do let _ ← make j
    setCell i (.list items)
  | .pairs => setCell i (.pairs (← (← listItems i).mapM pairOf))
  | .map => setCell i (.map (← mapEntries i))
  | .set => setCell i (.set (Value.seated ((← mapEntries i).map (·.1))))
  | _ => return

/-- Fills the lists and maps that were met from the one with number `k` on. -/
def fillFrom : Nat → Nat → Assembling Unit
  | 0, _ => return
  | fuel + 1, k => do
    match (← get).met[k]? with
    | none => return
    | some i =>
      fill i
      fillFrom fuel (k + 1)

end Assembling

namespace Assembly

/-- A mark for the pair with number `n` in a list, different from the marks of all nodes. -/
def pairMark (a : Assembly) (i n : Nat) : Nat := a.nodes.size * (n + 1) + i

/-- The value of a node inside the nodes `around` it. In a recursive document every list and map
is a knot. The nodes bound the depth. -/
def valueOf (a : Assembly) (recursive : Bool) : Nat → List Nat → Nat → Value
  | 0, _, _ => .null
  | depth + 1, around, i =>
    if around.contains i then .again i
    else
      let inner := a.valueOf recursive depth (if recursive then i :: around else around)
      let tie (mark : Nat) (v : Value) : Value := if recursive then .knot mark v else v
      match a.cells.getD i none with
      | none => .null
      | some (.value v) => v
      | some (.list items) => tie i (.list (items.map inner))
      | some (.pairs items) =>
        tie i (.list (items.mapIdx fun n e => tie (a.pairMark i n) (.pair (inner e.1) (inner e.2))))
      | some (.map entries) => tie i (.map (entries.map fun e => (e.1, inner e.2)))
      | some (.set members) => tie i (.set members)

end Assembly

/-- The value of the root node of a composition. -/
def Composition.value (c : Composition) : Except Refusal Value := do
  let work : Assembling Unit := do
    let _ ← Assembling.make c.root
    Assembling.fillFrom (c.nodes.size + 1) 0
  let ((), a) ← work.run {
    nodes := c.nodes, mergesLeft := c.nodes.mergeCount, cells := c.nodes.map fun _ => none
    met := #[] }
  return a.valueOf c.recursive (c.nodes.size + 1) [] c.root

end ApiClient.Yaml

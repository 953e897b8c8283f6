import ApiClient.Components
import ApiClient.Declaration
import ApiClient.Diagnostic

/-!
# Drafts of a module

A draft holds the names, declarations and diagnostics of a module in the making. Rendering a type
expression yields the text of its annotation. Records and intersections of records have no text
of their own: they are declared as classes under a raw name and the annotation names the class.
What a rendering did before it failed stays in the draft.
-/

namespace ApiClient

structure Draft where
  registry : Name.Registry
  declarations : Declarations
  diagnostics : List Diagnostic

def Draft.empty : Draft where
  registry := .forModule
  declarations := []
  diagnostics := []

/-- Work on a draft that may end in a fault. -/
abbrev Drafting := ExceptT Fault (StateM Draft)

def ScalarKind.hint : ScalarKind → String
  | string => "str"
  | integer => "int"
  | number => "float"
  | boolean => "bool"

namespace Drafting

def report (d : Diagnostic) : Drafting Unit :=
  modify fun draft => { draft with diagnostics := draft.diagnostics ++ [d] }

/-- The identifier of a raw name. -/
def identify (raw : String) : Drafting String :=
  modifyGet fun draft =>
    let (identifier, registry) := draft.registry.resolve raw
    (identifier, { draft with registry })

/-- The type of a schema. -/
def typeOf (s : Schema) : Drafting TypeExpr :=
  modifyGet fun draft =>
    let (e, registry) := draft.registry.typeOf s
    (e, { draft with registry })

/-- Takes the result of a walk and gives identifiers to the names that it met. -/
def follow {α : Type} (w : Walk α) : Drafting α := do
  modify fun draft => { draft with registry := draft.registry.resolveAll w.met }
  match w.outcome with
  | .ok a => return a
  | .error chain => throw (.recursiveSchema chain)

def declare (d : Declaration) : Drafting Unit :=
  modify fun draft => { draft with declarations := draft.declarations.put d }

end Drafting

/-- What the members of an intersection contribute: the references among them, the fields of the
records, and the type of further keys that the last record to have one gives. -/
structure Contribution where
  references : List String
  fields : List (Field TypeExpr)
  extra : Option TypeExpr

namespace Contribution

/-- Adds the contributions of pending members. An intersection among them is replaced by its own
members. -/
def gather (pending : List TypeExpr) (c : Contribution) : Contribution :=
  match pending with
  | [] => c
  | e :: pending =>
    match _shape : e.collapse with
    | .named _ raw => gather pending { c with references := c.references ++ [raw] }
    | .record fields extra =>
      gather pending { c with fields := c.fields ++ fields, extra := extra.or c.extra }
    | .intersection members => gather (members ++ pending) c
    | _ => gather pending c
termination_by TypeExpr.sizeOfAll pending
decreasing_by
  all_goals
    have := e.size_pos
    simp only [TypeExpr.sizeOfAll]
    try omega
  have := e.size_collapse_le
  rw [_shape] at this
  simp only [TypeExpr.size] at this
  rw [TypeExpr.sizeOfAll_append]
  omega

/-- What the members of an intersection contribute together. -/
def ofMembers (members : List TypeExpr) : Contribution := gather members ⟨[], [], none⟩

def size (c : Contribution) : Nat :=
  TypeExpr.sizeOfFields c.fields + TypeExpr.sizeOfOption c.extra

theorem size_gather_le (pending : List TypeExpr) (c : Contribution) :
    (gather pending c).size ≤ TypeExpr.sizeOfAll pending + c.size := by
  fun_induction gather pending c with
  | case1 => simp
  | case2 c e pending _ raw _ ih =>
    simp only [size, TypeExpr.sizeOfAll] at ih ⊢
    omega
  | case3 c e pending fields extra shape ih =>
    have := e.size_collapse_le
    rw [shape] at this
    simp only [size, TypeExpr.size, TypeExpr.sizeOfAll, TypeExpr.sizeOfFields_append] at *
    cases extra <;> simp only [TypeExpr.sizeOfOption, Option.or] at * <;> omega
  | case4 c e pending members shape ih =>
    have := e.size_collapse_le
    rw [shape] at this
    simp only [TypeExpr.size, TypeExpr.sizeOfAll, TypeExpr.sizeOfAll_append] at *
    omega
  | case5 c e pending _ _ _ ih =>
    simp only [TypeExpr.sizeOfAll]
    omega

theorem size_ofMembers_le (members : List TypeExpr) :
    (ofMembers members).size ≤ TypeExpr.sizeOfAll members := by
  have := size_gather_le members ⟨[], [], none⟩
  simpa [ofMembers, size, TypeExpr.sizeOfFields, TypeExpr.sizeOfOption] using this

end Contribution

namespace TypeExpr

theorem size_lt_of_sequence {e element : TypeExpr} (h : e.collapse = .sequence element) :
    element.size < e.size := by
  have := e.size_collapse_le
  rw [h, size] at this
  omega

theorem size_lt_of_union {e : TypeExpr} {members : List TypeExpr} (h : e.collapse = .union members) :
    sizeOfAll members < e.size := by
  have := e.size_collapse_le
  rw [h, size] at this
  omega

theorem size_lt_of_record {e : TypeExpr} {fields : List (Field TypeExpr)} {extra : Option TypeExpr}
    (h : e.collapse = .record fields extra) : sizeOfFields fields + sizeOfOption extra < e.size := by
  have := e.size_collapse_le
  rw [h, size] at this
  omega

theorem size_lt_of_intersection {e : TypeExpr} {members : List TypeExpr}
    (h : e.collapse = .intersection members) :
    sizeOfFields (Contribution.ofMembers members).fields +
      sizeOfOption (Contribution.ofMembers members).extra < e.size := by
  have := e.size_collapse_le
  have le := Contribution.size_ofMembers_le members
  rw [h, size] at this
  rw [Contribution.size] at le
  omega

end TypeExpr

namespace Drafting

/-- The identifiers of the record classes that references stand for, each once. -/
def basesOf (components : Components) : List String → List String → Drafting (List String)
  | [], bases => return bases
  | raw :: raws, bases => do
    match ← follow (components.recordBase [] raw) with
    | some root =>
      let base ← identify root
      basesOf components raws (if bases.contains base then bases else bases ++ [base])
    | none => basesOf components raws bases

/-- Adds a rendered field. A later field of the same name replaces an earlier one in its place. -/
def putField (fields : List (Field String)) (f : Field String) : List (Field String) :=
  if fields.any (·.name.same f.name) then
    fields.map fun g => if g.name.same f.name then f else g
  else fields ++ [f]

/-- Declares a record class. One that has to be declared by a call cannot have bases. -/
def declareClass (raw : String) (c : RecordClass) : Drafting Unit := do
  let functional ← c.functional
  if functional && !c.bases.isEmpty then
    report (.warning raw "field names need the functional TypedDict form; base classes dropped")
    declare (.record { c with bases := [] })
  else declare (.record c)

mutual

/-- The annotation of a type. Classes that have to be declared for it are named after `raw`. -/
def render (components : Components) (e : TypeExpr) (raw : String) : Drafting String := do
  match _shape : e.collapse with
  | .anything => return "Any"
  | .binary => return "bytes"
  | .scalar kind => return kind.hint
  | .literal choices =>
    return "Literal[" ++ ", ".intercalate (← choices.mapM fun v => v.literal?) ++ "]"
  | .named identifier _ => return identifier
  | .sequence element => return "list[" ++ (← render components element (raw ++ " item")) ++ "]"
  | .union members => renderUnion components members raw 1 []
  | .record [] extra =>
    return "dict[str, " ++ (← renderExtra components extra (raw ++ " value")).getD "Any" ++ "]"
  | .record (f :: fields) extra => declareRecord components raw (f :: fields) [] extra
  | .intersection members =>
    if ← follow (components.isRecord [] (.intersection members)) then
      let c := Contribution.ofMembers members
      let bases ← basesOf components c.references []
      declareRecord components raw c.fields bases c.extra
    else
      report (.warning raw "allOf mixes records with non-record schemas; typed as Any")
      return "Any"
termination_by 4 * e.size
decreasing_by
  · have := TypeExpr.size_lt_of_sequence _shape
    omega
  · have := TypeExpr.size_lt_of_union _shape
    omega
  · have := TypeExpr.size_lt_of_record _shape
    omega
  · have := TypeExpr.size_lt_of_record _shape
    omega
  · have := TypeExpr.size_lt_of_intersection _shape
    omega

/-- The annotation of a union: its different options in order. An open option makes the whole
open, and the ones after it are left alone. -/
def renderUnion (components : Components) (members : List TypeExpr) (raw : String) (index : Nat)
    (rendered : List String) : Drafting String := do
  match members with
  | [] => return if rendered.isEmpty then "Any" else " | ".intercalate rendered
  | e :: es =>
    let text ← render components e (raw ++ " option " ++ index.repr)
    if text = "Any" then return "Any"
    else
      renderUnion components es raw (index + 1)
        (if rendered.contains text then rendered else rendered ++ [text])
termination_by 4 * TypeExpr.sizeOfAll members + 1
decreasing_by
  · simp only [TypeExpr.sizeOfAll]
    omega
  · have := e.size_pos
    simp only [TypeExpr.sizeOfAll]
    omega

/-- Declares a record class under a raw name, unless the name is declared already. -/
def declareRecord (components : Components) (raw : String) (fields : List (Field TypeExpr))
    (bases : List String) (extra : Option TypeExpr) : Drafting String := do
  let name ← identify raw
  if (← get).declarations.contains name then return name
  else
    let rendered ← renderFields components raw fields []
    let extra ← renderExtra components extra (raw ++ " value")
    declareClass raw { name, fields := rendered, bases, extra }
    return name
termination_by 4 * (TypeExpr.sizeOfFields fields + TypeExpr.sizeOfOption extra) + 2
decreasing_by
  · omega
  · omega

def renderFields (components : Components) (raw : String) (fields : List (Field TypeExpr))
    (rendered : List (Field String)) : Drafting (List (Field String)) := do
  match fields with
  | [] => return rendered
  | ⟨name, required, e⟩ :: fields =>
    let hint ← render components e (raw ++ " " ++ (← name.plain?))
    renderFields components raw fields (putField rendered ⟨name, required, hint⟩)
termination_by 4 * TypeExpr.sizeOfFields fields + 1
decreasing_by
  · simp only [TypeExpr.sizeOfFields]
    omega
  · have := e.size_pos
    simp only [TypeExpr.sizeOfFields]
    omega

def renderExtra (components : Components) (extra : Option TypeExpr) (raw : String) :
    Drafting (Option String) := do
  match extra with
  | none => return none
  | some e => return some (← render components e raw)
termination_by 4 * TypeExpr.sizeOfOption extra + 1
decreasing_by
  simp only [TypeExpr.sizeOfOption]
  omega

end

/-- Whether an expression has a class of its own when it is declared at top level. -/
def hoists : TypeExpr → Bool
  | .record _ _ | .intersection _ => true
  | _ => false

/-- The type of a component, once its references are known to end. -/
def componentType (components : Components) (raw : String) (s : Schema) : Drafting TypeExpr := do
  let _ ← follow (components.recordBase [] raw)
  return (← typeOf s).collapse

/-- Whether a component of some type is declared as a class of its own. -/
def hasClass (components : Components) (e : TypeExpr) : Drafting Bool :=
  if hoists e then follow (components.isRecord [] e) else pure false

/-- The declaration of a component: a class if it is a record, and an alias otherwise. -/
def declareComponent (components : Components) (raw : String) (s : Schema) (name : String) :
    Drafting Declaration := do
  let e ← componentType components raw s
  let isClass ← hasClass components e
  let hint ← render components e raw
  if isClass then
    match (← get).declarations.find? name with
    | some d => return d
    | none => throw (.missing name)
  else
    declare (.synonym name hint)
    return .synonym name hint

/-- Declares a component. One whose references return to themselves becomes an open alias. -/
def declareSchema (components : Components) (raw : String) (s : Schema) :
    Drafting Declaration := do
  let name ← identify raw
  tryCatch (declareComponent components raw s name) fun
    | .recursiveSchema chain => do
      report (.error ("schema " ++ raw) (Fault.recursionText chain))
      declare (.synonym name "Any")
      return .synonym name "Any"
    | fault => throw fault

end Drafting

end ApiClient

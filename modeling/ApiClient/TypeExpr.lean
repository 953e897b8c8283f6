import ApiClient.Name.Registry
import ApiClient.Schema

/-!
# Type expressions

What a schema means as a type. References are resolved to identifiers and never followed, so two
equal schemas under two names stay two types.
-/

namespace ApiClient

inductive TypeExpr where
  | anything
  | binary
  | scalar (kind : ScalarKind)
  | literal (choices : List Value)
  | named (identifier raw : String)
  | sequence (element : TypeExpr)
  | union (members : List TypeExpr)
  | intersection (members : List TypeExpr)
  | record (fields : List (Field TypeExpr)) (extra : Option TypeExpr)

namespace Schema

mutual

/-- The names of the references in a schema, in order. -/
def references : Schema → List String
  | reference name => [name]
  | allOf members | oneOf members => referencesOfAll members
  | object properties additional => referencesOfFields properties ++ referencesOfOption additional
  | array element => references element
  | scalar _ _ | binary | anything => []

def referencesOfAll : List Schema → List String
  | [] => []
  | s :: ss => references s ++ referencesOfAll ss

def referencesOfFields : List (Field Schema) → List String
  | [] => []
  | ⟨_, _, s⟩ :: fs => references s ++ referencesOfFields fs

def referencesOfOption : Option Schema → List String
  | none => []
  | some s => references s

end

end Schema

namespace TypeExpr

/-- An open type carries no constraint. -/
def isAnything : TypeExpr → Bool
  | anything => true
  | _ => false

mutual

/-- The type of a schema, with references named by `identify`. -/
def ofSchema (identify : String → String) : Schema → TypeExpr
  | .reference name => named (identify name) name
  | .allOf members => intersection (ofSchemas identify members)
  | .oneOf members => union (ofSchemas identify members)
  | .object properties additional =>
    match properties, additional with
    | [], none => anything
    | properties, additional =>
      record (ofFields identify properties) (ofOption identify additional)
  | .scalar kind [] => scalar kind
  | .scalar _ choices => literal choices
  | .binary => binary
  | .array element => sequence (ofSchema identify element)
  | .anything => anything

def ofSchemas (identify : String → String) : List Schema → List TypeExpr
  | [] => []
  | s :: ss => ofSchema identify s :: ofSchemas identify ss

def ofFields (identify : String → String) : List (Field Schema) → List (Field TypeExpr)
  | [] => []
  | ⟨name, required, s⟩ :: fs => ⟨name, required, ofSchema identify s⟩ :: ofFields identify fs

def ofOption (identify : String → String) : Option Schema → Option TypeExpr
  | none => none
  | some s => some (ofSchema identify s)

end

mutual

/-- Reduces an intersection with one member that is not open to that member, and one without
any to the open type. -/
def collapse : TypeExpr → TypeExpr
  | intersection members =>
    match collapseSole members with
    | some e => e
    | none => intersection members
  | e => e

/-- The reduced form of the only member that is not open, the open type when all members are,
and none when several are not. -/
def collapseSole : List TypeExpr → Option TypeExpr
  | [] => some anything
  | e :: es =>
    if e.isAnything then collapseSole es
    else if es.all isAnything then some (collapse e)
    else none

end

mutual

/-- The number of expressions inside an expression, itself included. -/
def size : TypeExpr → Nat
  | sequence element => size element + 1
  | union members | intersection members => sizeOfAll members + 1
  | record fields extra => sizeOfFields fields + sizeOfOption extra + 1
  | anything | binary | scalar _ | literal _ | named _ _ => 1

def sizeOfAll : List TypeExpr → Nat
  | [] => 0
  | e :: es => size e + sizeOfAll es

def sizeOfFields : List (Field TypeExpr) → Nat
  | [] => 0
  | ⟨_, _, e⟩ :: fs => size e + sizeOfFields fs

def sizeOfOption : Option TypeExpr → Nat
  | none => 0
  | some e => size e

end

theorem size_pos (e : TypeExpr) : 0 < e.size := by cases e <;> simp [size]

theorem sizeOfAll_append (es fs : List TypeExpr) :
    sizeOfAll (es ++ fs) = sizeOfAll es + sizeOfAll fs := by
  induction es with
  | nil => simp [sizeOfAll]
  | cons e es ih =>
    simp only [List.cons_append, sizeOfAll]
    omega

theorem sizeOfFields_append (fs gs : List (Field TypeExpr)) :
    sizeOfFields (fs ++ gs) = sizeOfFields fs + sizeOfFields gs := by
  induction fs with
  | nil => simp [sizeOfFields]
  | cons f fs ih =>
    simp only [List.cons_append, sizeOfFields]
    omega

mutual

theorem size_collapse_le (e : TypeExpr) : e.collapse.size ≤ e.size := by
  cases e with
  | intersection members =>
    rw [collapse]
    split
    · next h =>
      have := size_collapseSole_le members h
      simp only [size]
      omega
    · exact Nat.le_refl _
  | _ => exact Nat.le_refl _

theorem size_collapseSole_le (es : List TypeExpr) {e : TypeExpr}
    (h : collapseSole es = some e) : e.size ≤ sizeOfAll es + 1 := by
  cases es with
  | nil => cases h; simp [size]
  | cons d ds =>
    rw [collapseSole] at h
    split at h
    · have := size_collapseSole_le ds h
      simp only [sizeOfAll]
      omega
    · split at h
      · cases h
        have := size_collapse_le d
        simp only [sizeOfAll]
        omega
      · cases h

end

end TypeExpr

/-- The type of a schema. The names it refers to are given identifiers first, in order. -/
def Name.Registry.typeOf (r : Name.Registry) (s : Schema) : TypeExpr × Name.Registry :=
  let r := r.resolveAll s.references
  (TypeExpr.ofSchema (fun raw => (r.resolve raw).1) s, r)

end ApiClient

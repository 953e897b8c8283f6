import ApiClient.TypeExpr
import Mathlib.Tactic.Common

/-!
# Naming of type expressions

The identifiers in the type of a schema are the only part of it that depends on the registry. Two
namings of one schema therefore differ by a relabelling, and the reduction of intersections,
which never looks at an identifier, commutes with relabelling.
-/

namespace ApiClient.TypeExpr

mutual

/-- Gives every reference the identifier of its raw name. -/
def relabel (identify : String → String) : TypeExpr → TypeExpr
  | named _ raw => named (identify raw) raw
  | sequence element => sequence (relabel identify element)
  | union members => union (relabelAll identify members)
  | intersection members => intersection (relabelAll identify members)
  | record fields extra => record (relabelFields identify fields) (relabelOption identify extra)
  | anything => anything
  | binary => binary
  | scalar kind => scalar kind
  | literal choices => literal choices

def relabelAll (identify : String → String) : List TypeExpr → List TypeExpr
  | [] => []
  | e :: es => relabel identify e :: relabelAll identify es

def relabelFields (identify : String → String) : List (Field TypeExpr) → List (Field TypeExpr)
  | [] => []
  | ⟨name, required, e⟩ :: fs => ⟨name, required, relabel identify e⟩ :: relabelFields identify fs

def relabelOption (identify : String → String) : Option TypeExpr → Option TypeExpr
  | none => none
  | some e => some (relabel identify e)

end

mutual

theorem relabel_ofSchema (f g : String → String) (s : Schema) :
    (ofSchema f s).relabel g = ofSchema g s := by
  match s with
  | .reference name => simp only [ofSchema, relabel]
  | .allOf members => simp only [ofSchema, relabel, relabel_ofSchemas f g members]
  | .oneOf members => simp only [ofSchema, relabel, relabel_ofSchemas f g members]
  | .object [] none => simp only [ofSchema, relabel]
  | .object [] (some s) =>
    simp only [ofSchema, relabel, relabel_ofOption f g (some s), relabel_ofFields f g []]
  | .object (p :: ps) additional =>
    simp only [ofSchema, relabel, relabel_ofOption f g additional, relabel_ofFields f g (p :: ps)]
  | .scalar kind [] => simp only [ofSchema, relabel]
  | .scalar kind (v :: vs) => simp only [ofSchema, relabel]
  | .binary => simp only [ofSchema, relabel]
  | .array element => simp only [ofSchema, relabel, relabel_ofSchema f g element]
  | .anything => simp only [ofSchema, relabel]

theorem relabel_ofSchemas (f g : String → String) (ss : List Schema) :
    relabelAll g (ofSchemas f ss) = ofSchemas g ss := by
  match ss with
  | [] => rfl
  | s :: ss => simp only [ofSchemas, relabelAll, relabel_ofSchema f g s, relabel_ofSchemas f g ss]

theorem relabel_ofFields (f g : String → String) (fs : List (Field Schema)) :
    relabelFields g (ofFields f fs) = ofFields g fs := by
  match fs with
  | [] => rfl
  | ⟨name, required, s⟩ :: fs =>
    simp only [ofFields, relabelFields, relabel_ofSchema f g s, relabel_ofFields f g fs]

theorem relabel_ofOption (f g : String → String) (s : Option Schema) :
    relabelOption g (ofOption f s) = ofOption g s := by
  match s with
  | none => rfl
  | some s => simp only [ofOption, relabelOption, relabel_ofSchema f g s]

end

mutual

/-- Two namings that agree on the references of a schema give it the same type. -/
theorem ofSchema_congr {f g : String → String} (s : Schema)
    (h : ∀ raw ∈ s.references, f raw = g raw) : ofSchema f s = ofSchema g s := by
  match s with
  | .reference name => rw [ofSchema, ofSchema, h name (List.mem_singleton_self name)]
  | .allOf members => rw [ofSchema, ofSchema, ofSchemas_congr members h]
  | .oneOf members => rw [ofSchema, ofSchema, ofSchemas_congr members h]
  | .object properties additional =>
    obtain ⟨hproperties, hadditional⟩ := List.forall_mem_append.1 h
    have hfields := ofFields_congr properties hproperties
    have hoption := ofOption_congr additional hadditional
    cases properties <;> cases additional <;> simp only [ofSchema, hfields, hoption]
  | .array element => rw [ofSchema, ofSchema, ofSchema_congr element h]
  | .scalar kind [] | .scalar kind (v :: vs) => simp only [ofSchema]
  | .binary | .anything => simp only [ofSchema]

theorem ofSchemas_congr {f g : String → String} (ss : List Schema)
    (h : ∀ raw ∈ Schema.referencesOfAll ss, f raw = g raw) : ofSchemas f ss = ofSchemas g ss := by
  match ss with
  | [] => rfl
  | s :: ss =>
    obtain ⟨hs, hss⟩ := List.forall_mem_append.1 h
    rw [ofSchemas, ofSchemas, ofSchema_congr s hs, ofSchemas_congr ss hss]

theorem ofFields_congr {f g : String → String} (fs : List (Field Schema))
    (h : ∀ raw ∈ Schema.referencesOfFields fs, f raw = g raw) : ofFields f fs = ofFields g fs := by
  match fs with
  | [] => rfl
  | ⟨name, required, s⟩ :: fs =>
    obtain ⟨hs, hfs⟩ := List.forall_mem_append.1 h
    rw [ofFields, ofFields, ofSchema_congr s hs, ofFields_congr fs hfs]

theorem ofOption_congr {f g : String → String} (s : Option Schema)
    (h : ∀ raw ∈ Schema.referencesOfOption s, f raw = g raw) : ofOption f s = ofOption g s := by
  match s with
  | none => rfl
  | some s => rw [ofOption, ofOption, ofSchema_congr s h]

end

@[simp]
theorem isAnything_relabel (f : String → String) (e : TypeExpr) :
    (e.relabel f).isAnything = e.isAnything := by
  cases e <;> simp only [relabel, isAnything]

theorem all_isAnything_relabel (f : String → String) (es : List TypeExpr) :
    (relabelAll f es).all isAnything = es.all isAnything := by
  induction es with
  | nil => rfl
  | cons e es ih => simp only [relabelAll, List.all_cons, isAnything_relabel, ih]

mutual

theorem collapse_relabel (f : String → String) (e : TypeExpr) :
    (e.relabel f).collapse = e.collapse.relabel f := by
  match e with
  | intersection members =>
    simp only [relabel, collapse, collapseSole_relabel f members]
    cases collapseSole members <;> simp only [Option.map, relabel]
  | anything | binary | scalar _ | literal _ | named _ _ | sequence _ | union _ | record _ _ =>
    simp only [relabel, collapse]

theorem collapseSole_relabel (f : String → String) (es : List TypeExpr) :
    collapseSole (relabelAll f es) = (collapseSole es).map (relabel f) := by
  match es with
  | [] => simp only [relabelAll, collapseSole, Option.map, relabel]
  | e :: es =>
    simp only [relabelAll, collapseSole, isAnything_relabel, all_isAnything_relabel,
      collapseSole_relabel f es, collapse_relabel f e]
    split
    · rfl
    · split <;> rfl

end

/-! ## Reduced types -/

theorem collapse_of_isAnything {e : TypeExpr} (h : e.isAnything = true) :
    e.collapse = anything := by
  cases e with
  | anything => simp only [collapse]
  | _ => cases h

mutual

/-- A reduced type is not reduced further. -/
theorem collapse_collapse (e : TypeExpr) : e.collapse.collapse = e.collapse := by
  match e with
  | intersection members =>
    rw [collapse]
    split
    · next reduced hsole => exact collapse_of_collapseSole members hsole
    · next hsole => rw [collapse, hsole]
  | anything | binary | scalar _ | literal _ | named _ _ | sequence _ | union _ | record _ _ =>
    simp only [collapse]

theorem collapse_of_collapseSole (es : List TypeExpr) {reduced : TypeExpr}
    (h : collapseSole es = some reduced) : reduced.collapse = reduced := by
  match es with
  | [] =>
    rw [collapseSole, Option.some.injEq] at h
    rw [← h, collapse]
    exact fun _ hmembers ↦ nomatch hmembers
  | e :: es =>
    rw [collapseSole] at h
    split at h
    · exact collapse_of_collapseSole es h
    · split at h
      · rw [← Option.some.inj h, collapse_collapse e]
      · cases h

end

end ApiClient.TypeExpr

import ApiClient.Proofs.Atoms
import ApiClient.Proofs.Draft.Repetition

/-!
# Resolving a schema again

The type of a schema names its references in their order, each by the identifier that it has in the
registry. A reference without one is given it where it is met, so reading a type may change the
registry; but what is given stays given. So a schema that was read once has the same type ever
after, whatever else is named, read, rendered or declared before it is read again, and then it
changes nothing.
-/

namespace ApiClient

open Work Draft Drafting

/-! ## The names in a type -/

namespace TypeExpr

/-- The identifier and the raw name of a named type. -/
def name? : TypeExpr → Option (String × String)
  | named identifier raw => some (identifier, raw)
  | _ => none

/-- The identifiers and raw names of the named types in a type, in order. -/
def names (e : TypeExpr) : List (String × String) := e.atoms.filterMap name?

mutual

theorem names_ofSchema (identify : String → String) (s : Schema) :
    (ofSchema identify s).names = s.references.map fun raw ↦ (identify raw, raw) := by
  match s with
  | .reference name => rfl
  | .allOf members | .oneOf members =>
    rw [ofSchema, names, atoms, Schema.references]
    exact names_ofSchemas identify members
  | .object properties additional =>
    have hfields := names_ofFields identify properties
    have hoption := names_ofOption identify additional
    rw [Schema.references, List.map_append, ← hfields, ← hoption, ← List.filterMap_append]
    match properties, additional with
    | [], none => rfl
    | [], some _ | _ :: _, none | _ :: _, some _ => simp only [ofSchema, names, atoms]
  | .scalar kind [] | .scalar kind (v :: vs) | .binary | .anything => rfl
  | .array element =>
    rw [ofSchema, names, atoms, Schema.references]
    exact names_ofSchema identify element

theorem names_ofSchemas (identify : String → String) (ss : List Schema) :
    (atomsOfAll (ofSchemas identify ss)).filterMap name? =
      (Schema.referencesOfAll ss).map fun raw ↦ (identify raw, raw) := by
  match ss with
  | [] => rfl
  | s :: ss =>
    rw [ofSchemas, atomsOfAll, Schema.referencesOfAll, List.filterMap_append, List.map_append,
      ← names_ofSchema identify s, ← names_ofSchemas identify ss]
    rfl

theorem names_ofFields (identify : String → String) (fs : List (Field Schema)) :
    (atomsOfFields (ofFields identify fs)).filterMap name? =
      (Schema.referencesOfFields fs).map fun raw ↦ (identify raw, raw) := by
  match fs with
  | [] => rfl
  | ⟨name, required, s⟩ :: fs =>
    rw [ofFields, atomsOfFields, Schema.referencesOfFields, List.filterMap_append, List.map_append,
      ← names_ofSchema identify s, ← names_ofFields identify fs]
    rfl

theorem names_ofOption (identify : String → String) (s : Option Schema) :
    (atomsOfOption (ofOption identify s)).filterMap name? =
      (Schema.referencesOfOption s).map fun raw ↦ (identify raw, raw) := by
  match s with
  | none => rfl
  | some s => exact names_ofSchema identify s

end

end TypeExpr

/-! ## Reading in one pass -/

namespace Name.Registry

variable {r r' : Registry}

mutual

/-- The type of a schema, read in one pass: a reference is given its identifier where it is met. -/
def readSchema : Schema → Registry → TypeExpr × Registry
  | .reference name, r =>
    let (identifier, r) := r.resolve name
    (.named identifier name, r)
  | .allOf members, r =>
    let (members, r) := readSchemas members r
    (.intersection members, r)
  | .oneOf members, r =>
    let (members, r) := readSchemas members r
    (.union members, r)
  | .object properties additional, r =>
    match properties, additional with
    | [], none => (.anything, r)
    | properties, additional =>
      let (fields, r) := readFields properties r
      let (extra, r) := readOption additional r
      (.record fields extra, r)
  | .scalar kind [], r => (.scalar kind, r)
  | .scalar _ choices, r => (.literal choices, r)
  | .binary, r => (.binary, r)
  | .array element, r =>
    let (element, r) := readSchema element r
    (.sequence element, r)
  | .anything, r => (.anything, r)

def readSchemas : List Schema → Registry → List TypeExpr × Registry
  | [], r => ([], r)
  | s :: ss, r =>
    let (e, r) := readSchema s r
    let (es, r) := readSchemas ss r
    (e :: es, r)

def readFields : List (Field Schema) → Registry → List (Field TypeExpr) × Registry
  | [], r => ([], r)
  | ⟨name, required, s⟩ :: fs, r =>
    let (e, r) := readSchema s r
    let (fields, r) := readFields fs r
    (⟨name, required, e⟩ :: fields, r)

def readOption : Option Schema → Registry → Option TypeExpr × Registry
  | none, r => (none, r)
  | some s, r =>
    let (e, r) := readSchema s r
    (some e, r)

end

mutual

/-- What is met first is given its identifier first, and what comes later leaves it alone. -/
theorem readSchema_eq (r : Registry) (s : Schema) (h : (r.resolveAll s.references).Extends r') :
    readSchema s r =
      (TypeExpr.ofSchema (fun raw ↦ (r'.resolve raw).1) s, r.resolveAll s.references) := by
  match s with
  | .reference name =>
    rw [readSchema, TypeExpr.ofSchema, h.resolve_eq]
    rfl
  | .allOf members | .oneOf members =>
    rw [readSchema, readSchemas_eq r members h, TypeExpr.ofSchema, Schema.references]
  | .object properties additional =>
    rw [Schema.references, resolveAll_append] at h ⊢
    have hfields := readFields_eq r properties ((extends_resolveAll _ _).trans h)
    have hoption := readOption_eq _ additional h
    match properties, additional with
    | [], none => rfl
    | [], some _ | _ :: _, none | _ :: _, some _ =>
      simp only [readSchema, TypeExpr.ofSchema, hfields, hoption]
  | .scalar kind [] | .scalar kind (v :: vs) | .binary | .anything => rfl
  | .array element =>
    rw [readSchema, readSchema_eq r element h, TypeExpr.ofSchema, Schema.references]

theorem readSchemas_eq (r : Registry) (ss : List Schema)
    (h : (r.resolveAll (Schema.referencesOfAll ss)).Extends r') :
    readSchemas ss r = (TypeExpr.ofSchemas (fun raw ↦ (r'.resolve raw).1) ss,
      r.resolveAll (Schema.referencesOfAll ss)) := by
  match ss with
  | [] => rfl
  | s :: ss =>
    rw [Schema.referencesOfAll, resolveAll_append] at h ⊢
    have hfirst := readSchema_eq r s ((extends_resolveAll _ _).trans h)
    have hrest := readSchemas_eq _ ss h
    simp only [readSchemas, TypeExpr.ofSchemas, hfirst, hrest]

theorem readFields_eq (r : Registry) (fs : List (Field Schema))
    (h : (r.resolveAll (Schema.referencesOfFields fs)).Extends r') :
    readFields fs r = (TypeExpr.ofFields (fun raw ↦ (r'.resolve raw).1) fs,
      r.resolveAll (Schema.referencesOfFields fs)) := by
  match fs with
  | [] => rfl
  | ⟨name, required, s⟩ :: fs =>
    rw [Schema.referencesOfFields, resolveAll_append] at h ⊢
    have hfirst := readSchema_eq r s ((extends_resolveAll _ _).trans h)
    have hrest := readFields_eq _ fs h
    simp only [readFields, TypeExpr.ofFields, hfirst, hrest]

theorem readOption_eq (r : Registry) (s : Option Schema)
    (h : (r.resolveAll (Schema.referencesOfOption s)).Extends r') :
    readOption s r = (TypeExpr.ofOption (fun raw ↦ (r'.resolve raw).1) s,
      r.resolveAll (Schema.referencesOfOption s)) := by
  match s with
  | none => rfl
  | some s =>
    rw [Schema.referencesOfOption] at h ⊢
    rw [readOption, readSchema_eq r s h, TypeExpr.ofOption]

end

theorem readSchema_eq_typeOf (r : Registry) (s : Schema) : readSchema s r = r.typeOf s :=
  readSchema_eq r s (.refl _)

/-- A schema that was read has the same type in every later registry, and reading it again changes
nothing. -/
theorem Extends.typeOf_eq {s : Schema} (h : (r.typeOf s).2.Extends r') :
    r'.typeOf s = ((r.typeOf s).1, r') := by
  have hgiven : ∀ raw ∈ s.references, r'.contains raw = true := by
    intro raw hraw
    refine Extends.contains h ?_
    change (r.resolveAll s.references).contains raw = true
    rw [contains_resolveAll, List.contains_iff_mem.2 hraw, Bool.or_true]
  calc r'.typeOf s
      = (TypeExpr.ofSchema (fun raw ↦ (r'.resolve raw).1) s, r') := by
        rw [typeOf, resolveAll_of_contains hgiven]
    _ = ((readSchema s r).1, r') := by rw [readSchema_eq r s h]
    _ = ((r.typeOf s).1, r') := by rw [readSchema_eq_typeOf]

theorem names_typeOf {s : Schema} (h : (r.typeOf s).2.Extends r') :
    (r.typeOf s).1.names = s.references.map fun raw ↦ ((r'.resolve raw).1, raw) := by
  rw [← readSchema_eq_typeOf, readSchema_eq r s h, TypeExpr.names_ofSchema]

end Name.Registry

/-! ## Resolving again -/

namespace Drafting

/-- After whatever acts, a schema has a type, which can be read in one pass and whose raw names are
the references of the schema in their order. After whatever further acts it has the same type again,
the draft is left as it was, and each identifier in the type is the one that its raw name has. -/
theorem typeOf_again (components : Components) (reserved : List String) (style : String → String)
    (before : List Act) (s : Schema) :
    let d := (Draft.blank reserved style).acts components before
    let d' := (exec (typeOf s) d).2
    ∃ e, exec (typeOf s) d = (.ok e, d') ∧
      Name.Registry.readSchema s d.registry = (e, d'.registry) ∧
      e.names.map Prod.snd = s.references ∧
      ∀ further : List Act,
        let later := d'.acts components further
        exec (typeOf s) later = (.ok e, later) ∧
          ∀ name ∈ e.names, (later.registry.resolve name.2).1 = name.1 := by
  intro d d'
  have hsound : d.Sound := (advances_acts components _ before (sound_blank reserved style)).1
  have hsound' : d'.Sound := (advances_act components d (.resolve s) hsound).1
  refine ⟨(d.registry.typeOf s).1, rfl, Name.Registry.readSchema_eq_typeOf d.registry s, ?_, ?_⟩
  · rw [Name.Registry.names_typeOf (.refl _), List.map_map]
    exact List.map_id' _
  · intro further later
    have hextends : (d.registry.typeOf s).2.Extends later.registry :=
      (advances_acts components d' further hsound').2.registry
    refine ⟨?_, fun name hname ↦ ?_⟩
    · have hagain := Name.Registry.Extends.typeOf_eq hextends
      calc exec (typeOf s) later
          = (.ok (later.registry.typeOf s).1,
              { later with registry := (later.registry.typeOf s).2 }) := rfl
        _ = (.ok (d.registry.typeOf s).1, later) := by rw [hagain]
    · rw [Name.Registry.names_typeOf hextends] at hname
      obtain ⟨raw, -, rfl⟩ := List.mem_map.1 hname
      rfl

end Drafting

end ApiClient

import ApiClient.Draft
import ApiClient.Proofs.TypeExpr

/-!
# Atoms of a type

A type is made of named types and of types that are restricted to some values, of which every other
part is put together. Reducing a type keeps its atoms, and what the members of an intersection
contribute together is made of theirs. The atoms of the type of a schema are its references and the
choices that its scalars are restricted to.
-/

namespace ApiClient

namespace TypeExpr

mutual

/-- The named and restricted types that a type is made of. -/
def atoms : TypeExpr → List TypeExpr
  | named identifier raw => [named identifier raw]
  | literal choices => [literal choices]
  | sequence element => atoms element
  | union members | intersection members => atomsOfAll members
  | record fields extra => atomsOfFields fields ++ atomsOfOption extra
  | anything | binary | scalar _ => []

def atomsOfAll : List TypeExpr → List TypeExpr
  | [] => []
  | e :: es => atoms e ++ atomsOfAll es

def atomsOfFields : List (Field TypeExpr) → List TypeExpr
  | [] => []
  | ⟨_, _, e⟩ :: fs => atoms e ++ atomsOfFields fs

def atomsOfOption : Option TypeExpr → List TypeExpr
  | none => []
  | some e => atoms e

end

theorem atomsOfAll_append (es es' : List TypeExpr) :
    atomsOfAll (es ++ es') = atomsOfAll es ++ atomsOfAll es' := by
  induction es with
  | nil => rw [List.nil_append, atomsOfAll, List.nil_append]
  | cons e es ih => rw [List.cons_append, atomsOfAll, atomsOfAll, ih, List.append_assoc]

theorem atomsOfFields_append (fs fs' : List (Field TypeExpr)) :
    atomsOfFields (fs ++ fs') = atomsOfFields fs ++ atomsOfFields fs' := by
  induction fs with
  | nil => rw [List.nil_append, atomsOfFields, List.nil_append]
  | cons f fs ih =>
    obtain ⟨name, required, e⟩ := f
    rw [List.cons_append, atomsOfFields, atomsOfFields, ih, List.append_assoc]

theorem atoms_of_isAnything {e : TypeExpr} (h : e.isAnything = true) : e.atoms = [] := by
  cases e with
  | anything => rw [atoms]
  | _ => cases h

theorem atomsOfAll_of_all {es : List TypeExpr} (h : es.all isAnything = true) :
    atomsOfAll es = [] := by
  induction es with
  | nil => rw [atomsOfAll]
  | cons e es ih =>
    rw [List.all_cons, Bool.and_eq_true] at h
    rw [atomsOfAll, atoms_of_isAnything h.1, ih h.2, List.append_nil]

mutual

@[simp]
theorem atoms_collapse (e : TypeExpr) : e.collapse.atoms = e.atoms := by
  match e with
  | intersection members =>
    rw [collapse]
    split
    · next reduced hsole => rw [atoms, atoms_of_collapseSole members hsole]
    · rfl
  | anything | binary | scalar _ | literal _ | named _ _ | sequence _ | union _ | record _ _ =>
    simp only [collapse]

theorem atoms_of_collapseSole (es : List TypeExpr) {reduced : TypeExpr}
    (h : collapseSole es = some reduced) : reduced.atoms = atomsOfAll es := by
  match es with
  | [] =>
    obtain rfl : anything = reduced := by simpa [collapseSole] using h
    rw [atoms, atomsOfAll]
  | e :: es =>
    rw [collapseSole] at h
    split at h
    · next hopen => rw [atomsOfAll, atoms_of_isAnything hopen, List.nil_append,
        atoms_of_collapseSole es h]
    · split at h
      · next hrest => rw [← Option.some.inj h, atoms_collapse e, atomsOfAll,
          atomsOfAll_of_all hrest, List.append_nil]
      · cases h

end

end TypeExpr

/-! ## Contributions -/

namespace Contribution

open TypeExpr

/-- The atoms of the fields and further values. -/
def atoms (c : Contribution) : List TypeExpr := atomsOfFields c.fields ++ atomsOfOption c.extra

theorem atoms_gather_subset (pending : List TypeExpr) (c : Contribution) :
    (gather pending c).atoms ⊆ c.atoms ++ atomsOfAll pending := by
  fun_induction gather pending c with
  | case1 c => simp
  | case2 c e pending identifier raw hshape ih =>
    intro a ha
    have := ih ha
    simp only [atoms, atomsOfAll, List.mem_append] at this ⊢
    tauto
  | case3 c e pending fields extra hshape ih =>
    intro a ha
    have hatoms : e.atoms = atomsOfFields fields ++ atomsOfOption extra := by
      rw [← atoms_collapse, hshape, TypeExpr.atoms]
    have hextra : a ∈ atomsOfOption (extra.or c.extra) →
        a ∈ atomsOfOption extra ∨ a ∈ atomsOfOption c.extra := by
      cases extra with
      | none => exact .inr
      | some e => exact .inl
    have hpending := ih ha
    simp only [atoms, atomsOfAll, hatoms, atomsOfFields_append, List.mem_append] at hpending ⊢
    tauto
  | case4 c e pending members hshape ih =>
    have hatoms : e.atoms = atomsOfAll members := by
      rw [← atoms_collapse, hshape, TypeExpr.atoms]
    rwa [atomsOfAll, hatoms, ← atomsOfAll_append]
  | case5 c e pending hnamed hrecord hintersection ih =>
    intro a ha
    have hpending := ih ha
    simp only [atomsOfAll, List.mem_append] at hpending ⊢
    tauto

theorem atoms_ofMembers_subset (members : List TypeExpr) :
    (ofMembers members).atoms ⊆ atomsOfAll members := by
  simpa [ofMembers, atoms, atomsOfFields, atomsOfOption] using
    atoms_gather_subset members ⟨[], [], none⟩

end Contribution

/-! ## Types of schemas -/

namespace Schema

mutual

/-- The values that the scalars in a schema are restricted to. -/
def choices : Schema → List Value
  | scalar _ values => values
  | allOf members | oneOf members => choicesOfAll members
  | object properties additional => choicesOfFields properties ++ choicesOfOption additional
  | array element => choices element
  | reference _ | binary | anything => []

def choicesOfAll : List Schema → List Value
  | [] => []
  | s :: ss => choices s ++ choicesOfAll ss

def choicesOfFields : List (Field Schema) → List Value
  | [] => []
  | ⟨_, _, s⟩ :: fs => choices s ++ choicesOfFields fs

def choicesOfOption : Option Schema → List Value
  | none => []
  | some s => choices s

end

end Schema

namespace TypeExpr

/-- The atom names a reference of some raw names, or it is restricted to some of some values. -/
def IsAtom (identify : String → String) (raws : List String) (choices : List Value)
    (a : TypeExpr) : Prop :=
  (∃ raw ∈ raws, a = named (identify raw) raw) ∨ ∃ values ⊆ choices, a = literal values

variable {identify : String → String} {raws raws' : List String} {choices choices' : List Value}
  {a : TypeExpr}

theorem IsAtom.mono (h : IsAtom identify raws choices a) (hraws : raws ⊆ raws')
    (hchoices : choices ⊆ choices') : IsAtom identify raws' choices' a := by
  rcases h with ⟨raw, hraw, ha⟩ | ⟨values, hvalues, ha⟩
  · exact .inl ⟨raw, hraws hraw, ha⟩
  · exact .inr ⟨values, List.Subset.trans hvalues hchoices, ha⟩

mutual

theorem isAtom_ofSchema (identify : String → String) (s : Schema) :
    ∀ a ∈ (ofSchema identify s).atoms, IsAtom identify s.references s.choices a := by
  match s with
  | .reference name =>
    intro a ha
    rw [ofSchema, atoms] at ha
    exact .inl ⟨name, List.mem_singleton_self name, List.mem_singleton.1 ha⟩
  | .allOf members | .oneOf members =>
    intro a ha
    rw [ofSchema, atoms] at ha
    exact isAtom_ofSchemas identify members a ha
  | .object properties additional =>
    intro a ha
    have hparts : a ∈ atomsOfFields (ofFields identify properties) ∨
        a ∈ atomsOfOption (ofOption identify additional) := by
      cases properties with
      | nil =>
        cases additional with
        | none => simp [ofSchema, atoms] at ha
        | some s => simpa [ofSchema, atoms] using ha
      | cons => simpa [ofSchema, atoms] using ha
    rw [Schema.references, Schema.choices]
    rcases hparts with ha | ha
    · exact (isAtom_ofFields identify properties a ha).mono (List.subset_append_left _ _)
        (List.subset_append_left _ _)
    · exact (isAtom_ofOption identify additional a ha).mono (List.subset_append_right _ _)
        (List.subset_append_right _ _)
  | .scalar kind [] | .binary | .anything =>
    intro a ha
    simp [ofSchema, atoms] at ha
  | .scalar kind (v :: vs) =>
    intro a ha
    rw [ofSchema, atoms] at ha
    exact .inr ⟨v :: vs, by rw [Schema.choices]; exact List.Subset.refl _, List.mem_singleton.1 ha⟩
    all_goals simp
  | .array element =>
    intro a ha
    rw [ofSchema, atoms] at ha
    exact isAtom_ofSchema identify element a ha

theorem isAtom_ofSchemas (identify : String → String) (ss : List Schema) :
    ∀ a ∈ atomsOfAll (ofSchemas identify ss),
      IsAtom identify (Schema.referencesOfAll ss) (Schema.choicesOfAll ss) a := by
  match ss with
  | [] => exact fun a ha ↦ absurd ha List.not_mem_nil
  | s :: ss =>
    intro a ha
    rw [ofSchemas, atomsOfAll] at ha
    rw [Schema.referencesOfAll, Schema.choicesOfAll]
    rcases List.mem_append.1 ha with ha | ha
    · exact (isAtom_ofSchema identify s a ha).mono (List.subset_append_left _ _)
        (List.subset_append_left _ _)
    · exact (isAtom_ofSchemas identify ss a ha).mono (List.subset_append_right _ _)
        (List.subset_append_right _ _)

theorem isAtom_ofFields (identify : String → String) (fs : List (Field Schema)) :
    ∀ a ∈ atomsOfFields (ofFields identify fs),
      IsAtom identify (Schema.referencesOfFields fs) (Schema.choicesOfFields fs) a := by
  match fs with
  | [] => exact fun a ha ↦ absurd ha List.not_mem_nil
  | ⟨name, required, s⟩ :: fs =>
    intro a ha
    rw [ofFields, atomsOfFields] at ha
    rw [Schema.referencesOfFields, Schema.choicesOfFields]
    rcases List.mem_append.1 ha with ha | ha
    · exact (isAtom_ofSchema identify s a ha).mono (List.subset_append_left _ _)
        (List.subset_append_left _ _)
    · exact (isAtom_ofFields identify fs a ha).mono (List.subset_append_right _ _)
        (List.subset_append_right _ _)

theorem isAtom_ofOption (identify : String → String) (s : Option Schema) :
    ∀ a ∈ atomsOfOption (ofOption identify s),
      IsAtom identify (Schema.referencesOfOption s) (Schema.choicesOfOption s) a := by
  match s with
  | none => exact fun a ha ↦ absurd ha List.not_mem_nil
  | some s => exact isAtom_ofSchema identify s

end

end TypeExpr

end ApiClient

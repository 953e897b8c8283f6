import ApiClient.Proofs.Composition

/-!
# Ancestry of record components

From a schema one gets to the members of its intersections and to the component that it refers to.
A record component is derived from the records that the references within it stand for, aliases
followed. So the object schemas that one gets to from a record are those within the records that it
is derived from, itself included.
-/

namespace ApiClient

open Relation

namespace Components

variable {components : Components}

/-! ## Steps between schemas -/

/-- From a schema to a member of its intersection, or to the component that it refers to. -/
inductive Step (components : Components) : Schema → Schema → Prop
  | member {members m} : m ∈ members → Step components (.allOf members) m
  | target {raw s} : components.lookup raw = some s → Step components (.reference raw) s

/-- From a schema to a component that a reference within it refers to. -/
def Parent (components : Components) (s t : Schema) : Prop :=
  ∃ raw, s.Within (.reference raw) ∧ components.lookup raw = some t

theorem steps_of_within {s t : Schema} (h : s.Within t) : ReflTransGen components.Step s t := by
  induction h with
  | refl => exact .refl
  | member hm _ ih => exact .head (.member hm) ih

theorem Parent.steps {s t : Schema} (h : components.Parent s t) :
    ReflTransGen components.Step s t := by
  obtain ⟨raw, hwithin, hknown⟩ := h
  exact (steps_of_within hwithin).tail (.target hknown)

/-- Steps lead along parents and end within the last of them. -/
theorem steps_iff {s u : Schema} :
    ReflTransGen components.Step s u ↔ ∃ t, ReflTransGen components.Parent s t ∧ t.Within u := by
  constructor
  · intro hsteps
    induction hsteps using ReflTransGen.head_induction_on with
    | refl => exact ⟨u, .refl, .refl u⟩
    | head hstep _ ih =>
      obtain ⟨t, hparents, hwithin⟩ := ih
      cases hstep with
      | member hm =>
        rcases hparents.cases_head with rfl | ⟨v, ⟨raw, hreference, hknown⟩, hrest⟩
        · exact ⟨_, .refl, .member hm hwithin⟩
        · exact ⟨t, .head ⟨raw, .member hm hreference, hknown⟩ hrest, hwithin⟩
      | target hknown => exact ⟨t, .head ⟨_, .refl _, hknown⟩ hparents, hwithin⟩
  · rintro ⟨t, hparents, hwithin⟩
    have hsteps : ReflTransGen components.Step s t := hparents.lift' id fun _ _ ↦ Parent.steps
    exact hsteps.trans (steps_of_within hwithin)

/-! ## Components that are derived -/

theorem mem_parents_shape {s : Schema} {raw : String} :
    raw ∈ (shape s).parents ↔ s.Within (.reference raw) := by
  rw [shape, TypeExpr.parents, TypeExpr.leaves_collapse]
  exact Schema.mem_parents_ofSchema id

theorem mem_name_fields_shape {s : Schema} {k : Value} :
    k ∈ (shape s).fields.map (·.name) ↔
      ∃ properties additional, s.Within (.object properties additional) ∧
        k ∈ properties.map (·.name) := by
  rw [shape, TypeExpr.fields, TypeExpr.leaves_collapse]
  exact Schema.mem_name_fields_ofSchema id

/-- The references among the members of a composed component are those within its schema. -/
theorem mem_references_iff {s : Schema} {identify : String → String} {members : List TypeExpr}
    (h : (shape s).relabel identify = .intersection members) {reference : String} :
    reference ∈ (Contribution.ofMembers members).references ↔ s.Within (.reference reference) := by
  rw [Contribution.references_ofMembers, ← h, relabel_shape, TypeExpr.parents,
    TypeExpr.leaves_collapse]
  exact Schema.mem_parents_ofSchema identify

/-- A record component with a reference within it is an intersection of records. -/
theorem exists_intersection_of_within {raw reference : String} {s : Schema}
    (hroot : components.IsRoot raw) (hknown : components.lookup raw = some s)
    (hwithin : s.Within (.reference reference)) :
    ∃ members, (shape s).relabel id = .intersection members ∧
      (isRecord components [] (.intersection members)).outcome = .ok true := by
  obtain ⟨s', hknown', hnamed, hrecord⟩ := of_recordBase_self hroot
  obtain rfl : s = s' := Option.some.inj (hknown.symm.trans hknown')
  have hparent := mem_parents_shape.2 hwithin
  cases hshape : shape s with
  | named identifier target => exact absurd hshape (hnamed identifier target)
  | intersection members =>
    rw [← isRecord_relabel id, hshape, TypeExpr.relabel] at hrecord
    exact ⟨TypeExpr.relabelAll id members, by rw [TypeExpr.relabel],
      isRecord_of_subset (List.nil_subset _) hrecord⟩
  | _ =>
    rw [hshape] at hparent
    simp [TypeExpr.parents, TypeExpr.leaves, TypeExpr.reference?] at hparent

/-- A reference within a record component stands for a record. -/
theorem exists_base_of_within {raw reference : String} {s : Schema}
    (hroot : components.IsRoot raw) (hknown : components.lookup raw = some s)
    (hwithin : s.Within (.reference reference)) :
    ∃ base, (recordBase components [] reference).outcome = .ok (some base) := by
  obtain ⟨members, hshape, hrecord⟩ := exists_intersection_of_within hroot hknown hwithin
  exact exists_root_of_mem_references hrecord ((mem_references_iff hshape).2 hwithin)

/-- A record component is derived from what a reference within it stands for. -/
theorem derives_iff {raw base : String} {s : Schema} (hroot : components.IsRoot raw)
    (hknown : components.lookup raw = some s) :
    components.Derives raw base ↔ ∃ reference, s.Within (.reference reference) ∧
      (recordBase components [] reference).outcome = .ok (some base) := by
  constructor
  · rintro ⟨-, s', identify, members, reference, hknown', hshape, hmem, hbase⟩
    obtain rfl : s = s' := Option.some.inj (hknown.symm.trans hknown')
    exact ⟨reference, (mem_references_iff hshape).1 hmem, hbase⟩
  · rintro ⟨reference, hwithin, hbase⟩
    obtain ⟨members, hshape, -⟩ := exists_intersection_of_within hroot hknown hwithin
    exact ⟨hroot, s, id, members, reference, hknown, hshape,
      (mem_references_iff hshape).2 hwithin, hbase⟩

/-- What a component stands for is found along parents. -/
theorem parents_of_recordBase {chain : List String} {raw root : String} {s : Schema}
    (hknown : components.lookup raw = some s)
    (h : (recordBase components chain raw).outcome = .ok (some root)) :
    ∃ t, components.lookup root = some t ∧ ReflTransGen components.Parent s t := by
  obtain ⟨s', hknown', ⟨identifier, target, hshape, htarget⟩ | ⟨-, rfl, -⟩⟩ := recordBase_cases h
  · obtain rfl : s = s' := Option.some.inj (hknown.symm.trans hknown')
    have hless := remaining_append_lt hknown (fresh_of_recordBase h)
    obtain ⟨u, hu, -⟩ := recordBase_cases htarget
    obtain ⟨t, ht, hparents⟩ := parents_of_recordBase hu htarget
    have hwithin : s.Within (.reference target) := by
      rw [← mem_parents_shape, hshape]
      exact List.mem_singleton_self target
    exact ⟨t, ht, .head ⟨target, hwithin, hu⟩ hparents⟩
  · exact ⟨s, hknown, .refl⟩
termination_by components.remaining chain

theorem parents_of_derives {raw root : String} {s t : Schema}
    (h : ReflTransGen components.Derives raw root) (hs : components.lookup raw = some s)
    (ht : components.lookup root = some t) : ReflTransGen components.Parent s t := by
  induction h using ReflTransGen.head_induction_on generalizing s with
  | refl =>
    obtain rfl : s = t := Option.some.inj (hs.symm.trans ht)
    exact .refl
  | head hderives _ ih =>
    obtain ⟨reference, hwithin, hbase⟩ := (derives_iff hderives.isRoot hs).1 hderives
    obtain ⟨u, hu, -⟩ := recordBase_cases hbase
    obtain ⟨v, hv, hparents⟩ := parents_of_recordBase hu hbase
    exact .head ⟨reference, hwithin, hu⟩ (hparents.trans (ih hv))

/-- A property that is met along parents of a component is one of a record that the component's
record is derived from. -/
theorem exists_derives_of_parents {k : Value} {s u : Schema}
    (h : ReflTransGen components.Parent s u) (hk : k ∈ (shape u).fields.map (·.name))
    {chain : List String} {raw root : String} (hknown : components.lookup raw = some s)
    (hroot : (recordBase components chain raw).outcome = .ok (some root)) :
    ∃ ancestor t, ReflTransGen components.Derives root ancestor ∧
      components.lookup ancestor = some t ∧ k ∈ (shape t).fields.map (·.name) := by
  induction h using ReflTransGen.head_induction_on generalizing chain raw root with
  | refl =>
    obtain ⟨s', hknown', ⟨identifier, target, hshape, -⟩ | ⟨-, rfl, -⟩⟩ := recordBase_cases hroot
    · -- an alias has no properties of its own
      obtain rfl : u = s' := Option.some.inj (hknown.symm.trans hknown')
      rw [hshape] at hk
      simp [TypeExpr.fields, TypeExpr.leaves, TypeExpr.ownFields] at hk
    · exact ⟨root, u, .refl, hknown, hk⟩
  | head hparent _ ih =>
    obtain ⟨reference, hwithin, hv⟩ := hparent
    obtain ⟨s', hknown', ⟨identifier, target, hshape, htarget⟩ | ⟨hnamed, rfl, hrecord⟩⟩ :=
      recordBase_cases hroot <;> obtain rfl := Option.some.inj (hknown.symm.trans hknown')
    · have hmem := mem_parents_shape.2 hwithin
      rw [hshape] at hmem
      obtain rfl : reference = target := List.mem_singleton.1 hmem
      exact ih hv htarget
    · have hisRoot := isRoot_of_recordBase hroot
      obtain ⟨base, hbase⟩ := exists_base_of_within hisRoot hknown hwithin
      obtain ⟨ancestor, t, hderives, hrest⟩ := ih hv hbase
      have hstep := (derives_iff hisRoot hknown).2 ⟨reference, hwithin, hbase⟩
      exact ⟨ancestor, t, .head hstep hderives, hrest⟩

/-- The object schemas that one gets to from a record component have the properties of the records
that it is derived from. -/
theorem mem_name_fields_iff {raw : String} {s : Schema} (hroot : components.IsRoot raw)
    (hknown : components.lookup raw = some s) {k : Value} :
    (∃ ancestor t, ReflTransGen components.Derives raw ancestor ∧
      components.lookup ancestor = some t ∧ k ∈ (shape t).fields.map (·.name)) ↔
    ∃ properties additional,
      ReflTransGen components.Step s (.object properties additional) ∧
        k ∈ properties.map (·.name) := by
  constructor
  · rintro ⟨ancestor, t, hderives, ht, hk⟩
    obtain ⟨properties, additional, hwithin, hname⟩ := mem_name_fields_shape.1 hk
    exact ⟨properties, additional,
      steps_iff.2 ⟨t, parents_of_derives hderives hknown ht, hwithin⟩, hname⟩
  · rintro ⟨properties, additional, hsteps, hname⟩
    obtain ⟨t, hparents, hwithin⟩ := steps_iff.1 hsteps
    have hk := mem_name_fields_shape.2 ⟨properties, additional, hwithin, hname⟩
    exact exists_derives_of_parents hparents hk hknown hroot

end Components

end ApiClient

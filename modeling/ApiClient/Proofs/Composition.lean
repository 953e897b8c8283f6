import ApiClient.Proofs.Components
import ApiClient.Proofs.Draft.Records

/-!
# Composition of types

An intersection is composed of the types at its leaves: the members of its members, without those
that are open. Reducing it keeps its leaves, and what its members contribute together is what its
leaves contribute one after the other. A leaf of the type of a schema is the type of a schema within
it, that is, of a member of its intersections.
-/

namespace ApiClient

namespace TypeExpr

/-! ## Leaves -/

mutual

/-- The types that an intersection is composed of, or the type itself. Open types are left out. -/
def leaves : TypeExpr → List TypeExpr
  | anything => []
  | intersection members => leavesOfAll members
  | e => [e]

def leavesOfAll : List TypeExpr → List TypeExpr
  | [] => []
  | e :: es => leaves e ++ leavesOfAll es

end

theorem leavesOfAll_append (es es' : List TypeExpr) :
    leavesOfAll (es ++ es') = leavesOfAll es ++ leavesOfAll es' := by
  induction es with
  | nil => rw [List.nil_append, leavesOfAll, List.nil_append]
  | cons e es ih => rw [List.cons_append, leavesOfAll, leavesOfAll, ih, List.append_assoc]

theorem leaves_of_isAnything {e : TypeExpr} (h : e.isAnything = true) : e.leaves = [] := by
  cases e with
  | anything => rw [leaves]
  | _ => cases h

theorem leavesOfAll_of_all {es : List TypeExpr} (h : es.all isAnything = true) :
    leavesOfAll es = [] := by
  induction es with
  | nil => rw [leavesOfAll]
  | cons e es ih =>
    rw [List.all_cons, Bool.and_eq_true] at h
    rw [leavesOfAll, leaves_of_isAnything h.1, ih h.2, List.append_nil]

mutual

theorem leaves_collapse (e : TypeExpr) : e.collapse.leaves = e.leaves := by
  match e with
  | intersection members =>
    rw [collapse]
    split
    · next reduced hsole => rw [leaves, leaves_of_collapseSole members hsole]
    · rfl
  | anything | binary | scalar _ | literal _ | named _ _ | sequence _ | union _ | record _ _ =>
    simp only [collapse]

theorem leaves_of_collapseSole (es : List TypeExpr) {reduced : TypeExpr}
    (h : collapseSole es = some reduced) : reduced.leaves = leavesOfAll es := by
  match es with
  | [] =>
    obtain rfl : anything = reduced := by simpa [collapseSole] using h
    rw [leaves, leavesOfAll]
  | e :: es =>
    rw [collapseSole] at h
    split at h
    · next hopen => rw [leavesOfAll, leaves_of_isAnything hopen, List.nil_append,
        leaves_of_collapseSole es h]
    · split at h
      · next hrest => rw [← Option.some.inj h, leaves_collapse e, leavesOfAll,
          leavesOfAll_of_all hrest, List.append_nil]
      · cases h

end

/-! ## References and fields at the leaves -/

def reference? : TypeExpr → Option String
  | named _ raw => some raw
  | _ => none

def ownFields : TypeExpr → List (Field TypeExpr)
  | record fields _ => fields
  | _ => []

/-- The raw names of the references that a type is composed of. -/
def parents (e : TypeExpr) : List String := e.leaves.filterMap reference?

/-- The fields of the records that a type is composed of. -/
def fields (e : TypeExpr) : List (Field TypeExpr) := e.leaves.flatMap ownFields

theorem mem_parents {e : TypeExpr} {raw : String} :
    raw ∈ e.parents ↔ ∃ identifier, named identifier raw ∈ e.leaves := by
  unfold parents
  rw [List.mem_filterMap]
  constructor
  · rintro ⟨leaf, hleaf, hraw⟩
    cases leaf with
    | named identifier raw' =>
      obtain rfl : raw' = raw := Option.some.inj hraw
      exact ⟨identifier, hleaf⟩
    | _ => cases hraw
  · rintro ⟨identifier, hleaf⟩
    exact ⟨_, hleaf, rfl⟩

theorem mem_fields {e : TypeExpr} {f : Field TypeExpr} :
    f ∈ e.fields ↔ ∃ fs extra, record fs extra ∈ e.leaves ∧ f ∈ fs := by
  unfold fields
  rw [List.mem_flatMap]
  constructor
  · rintro ⟨leaf, hleaf, hf⟩
    cases leaf with
    | record fs extra => exact ⟨fs, extra, hleaf, hf⟩
    | _ => cases hf
  · rintro ⟨fs, extra, hleaf, hf⟩
    exact ⟨_, hleaf, hf⟩

end TypeExpr

/-! ## Contributions -/

namespace Contribution

open TypeExpr

/-- Adds what a leaf contributes. -/
def add (c : Contribution) : TypeExpr → Contribution
  | .named _ raw => { c with references := c.references ++ [raw] }
  | .record fields extra => { c with fields := c.fields ++ fields, extra := extra.or c.extra }
  | _ => c

/-- Members contribute what their leaves contribute, in order. -/
theorem gather_eq_foldl (pending : List TypeExpr) (c : Contribution) :
    gather pending c = (leavesOfAll pending).foldl add c := by
  have hleaves {e shape : TypeExpr} (h : e.collapse = shape) : e.leaves = shape.leaves :=
    h ▸ (leaves_collapse e).symm
  fun_induction gather pending c with
  | case1 c => rw [leavesOfAll, List.foldl_nil]
  | case2 c e pending identifier raw hshape ih =>
    rw [ih, leavesOfAll, hleaves hshape, leaves, List.singleton_append, List.foldl_cons, add]
    all_goals simp
  | case3 c e pending fields extra hshape ih =>
    rw [ih, leavesOfAll, hleaves hshape, leaves, List.singleton_append, List.foldl_cons, add]
    all_goals simp
  | case4 c e pending members hshape ih =>
    rw [ih, leavesOfAll_append, leavesOfAll, hleaves hshape, leaves]
  | case5 c e pending hnamed hrecord hintersection ih =>
    -- The leaf of any other type contributes nothing.
    rw [ih, leavesOfAll, List.foldl_append]
    congr 1
    rw [← leaves_collapse]
    cases hshape : e.collapse with
    | named => exact absurd hshape (hnamed _ _)
    | record => exact absurd hshape (hrecord _ _)
    | intersection => exact absurd hshape (hintersection _)
    | _ => simp [leaves, add]

theorem foldl_add (leaves : List TypeExpr) (c : Contribution) :
    (leaves.foldl add c).references = c.references ++ leaves.filterMap reference? ∧
      (leaves.foldl add c).fields = c.fields ++ leaves.flatMap ownFields := by
  induction leaves generalizing c with
  | nil => simp
  | cons e leaves ih =>
    obtain ⟨hreferences, hfields⟩ := ih (c.add e)
    rw [List.foldl_cons, hreferences, hfields]
    cases e <;> simp [add, reference?, ownFields, List.filterMap_cons]

theorem references_ofMembers (members : List TypeExpr) :
    (ofMembers members).references = (TypeExpr.intersection members).parents := by
  rw [ofMembers, gather_eq_foldl, (foldl_add _ _).1, List.nil_append, parents, leaves]

theorem fields_ofMembers (members : List TypeExpr) :
    (ofMembers members).fields = (TypeExpr.intersection members).fields := by
  rw [ofMembers, gather_eq_foldl, (foldl_add _ _).2, List.nil_append, TypeExpr.fields, leaves]

end Contribution

/-! ## Schemas within a schema -/

namespace Schema

/-- A schema is within another one if it is that one or a member of its intersections. -/
inductive Within : Schema → Schema → Prop
  | refl (s) : Within s s
  | member {members m s} : m ∈ members → Within m s → Within (.allOf members) s

/-- What is composed is no leaf. -/
def IsLeaf (s : Schema) : Prop := ∀ members, s ≠ .allOf members

theorem leaves_ofSchema_of_isLeaf (identify : String → String) {s : Schema} (h : s.IsLeaf) :
    (TypeExpr.ofSchema identify s).leaves =
      if (TypeExpr.ofSchema identify s).isAnything then [] else [TypeExpr.ofSchema identify s] := by
  cases s with
  | allOf members => exact absurd rfl (h members)
  | object properties additional =>
    cases properties <;> cases additional <;>
      simp [TypeExpr.ofSchema, TypeExpr.leaves, TypeExpr.isAnything]
  | scalar kind choices =>
    cases choices <;> simp [TypeExpr.ofSchema, TypeExpr.leaves, TypeExpr.isAnything]
  | _ => simp [TypeExpr.ofSchema, TypeExpr.leaves, TypeExpr.isAnything]

mutual

/-- The leaves of a schema's type are the types of the leaves within the schema. -/
theorem mem_leaves_ofSchema (identify : String → String) (s : Schema) (e : TypeExpr) :
    e ∈ (TypeExpr.ofSchema identify s).leaves ↔ ∃ t, Within s t ∧ t.IsLeaf ∧
      e.isAnything = false ∧ e = TypeExpr.ofSchema identify t := by
  match s with
  | allOf members =>
    rw [TypeExpr.ofSchema, TypeExpr.leaves, mem_leavesOfAll_ofSchemas identify members e]
    constructor
    · rintro ⟨m, hm, t, hwithin, hleaf⟩
      exact ⟨t, .member hm hwithin, hleaf⟩
    · rintro ⟨t, hwithin, hleaf, htype⟩
      cases hwithin with
      | refl => exact absurd rfl (hleaf members)
      | member hm hwithin => exact ⟨_, hm, t, hwithin, hleaf, htype⟩
  | reference _ | oneOf _ | object _ _ | scalar _ _ | binary | array _ | anything =>
    rw [leaves_ofSchema_of_isLeaf identify (by rintro members ⟨⟩)]
    constructor
    · intro hmem
      split at hmem
      · cases hmem
      · next hopen =>
        obtain rfl := List.mem_singleton.1 hmem
        exact ⟨_, .refl _, by rintro members ⟨⟩, by simpa using hopen, rfl⟩
    · rintro ⟨t, hwithin, -, hopen, rfl⟩
      cases hwithin
      rw [hopen]
      exact List.mem_singleton_self _

theorem mem_leavesOfAll_ofSchemas (identify : String → String) (ss : List Schema) (e : TypeExpr) :
    e ∈ TypeExpr.leavesOfAll (TypeExpr.ofSchemas identify ss) ↔ ∃ m ∈ ss, ∃ t, Within m t ∧
      t.IsLeaf ∧ e.isAnything = false ∧ e = TypeExpr.ofSchema identify t := by
  match ss with
  | [] => simp [TypeExpr.ofSchemas, TypeExpr.leavesOfAll]
  | s :: ss =>
    rw [TypeExpr.ofSchemas, TypeExpr.leavesOfAll, List.mem_append, mem_leaves_ofSchema identify s e,
      mem_leavesOfAll_ofSchemas identify ss e]
    simp only [List.mem_cons, exists_eq_or_imp]

end

theorem mem_parents_ofSchema (identify : String → String) {s : Schema} {raw : String} :
    raw ∈ (TypeExpr.ofSchema identify s).parents ↔ Within s (.reference raw) := by
  simp only [TypeExpr.mem_parents, mem_leaves_ofSchema]
  constructor
  · rintro ⟨identifier, t, hwithin, -, -, htype⟩
    match t with
    | reference name =>
      simp only [TypeExpr.ofSchema, TypeExpr.named.injEq] at htype
      obtain ⟨-, rfl⟩ := htype
      exact hwithin
    | object [] none | object [] (some _) | object (_ :: _) _ | scalar _ [] | scalar _ (_ :: _)
    | allOf _ | oneOf _ | binary | array _ | anything =>
      simp [TypeExpr.ofSchema] at htype
  · intro hwithin
    exact ⟨identify raw, .reference raw, hwithin, by rintro members ⟨⟩, rfl, rfl⟩

theorem map_name_ofFields (identify : String → String) (properties : List (Field Schema)) :
    (TypeExpr.ofFields identify properties).map (·.name) = properties.map (·.name) := by
  have hkeys := congrArg (List.map Prod.fst) (map_key_ofFields identify properties)
  rwa [List.map_map, List.map_map] at hkeys

/-- The fields that a schema's type is composed of have the names of the properties of the object
schemas within it. -/
theorem mem_name_fields_ofSchema (identify : String → String) {s : Schema} {k : Value} :
    k ∈ (TypeExpr.ofSchema identify s).fields.map (·.name) ↔
      ∃ properties additional, Within s (.object properties additional) ∧
        k ∈ properties.map (·.name) := by
  simp only [List.mem_map, TypeExpr.mem_fields, mem_leaves_ofSchema]
  constructor
  · rintro ⟨f, ⟨fs, extra, ⟨t, hwithin, -, -, htype⟩, hf⟩, rfl⟩
    match t with
    | object properties additional =>
      have hfields : fs = TypeExpr.ofFields identify properties := by
        cases properties <;> cases additional <;> simp_all [TypeExpr.ofSchema]
      have hname : f.name ∈ (TypeExpr.ofFields identify properties).map (·.name) :=
        List.mem_map_of_mem (hfields ▸ hf)
      rw [map_name_ofFields, List.mem_map] at hname
      exact ⟨properties, additional, hwithin, hname⟩
    | scalar _ [] | scalar _ (_ :: _) | reference _ | allOf _ | oneOf _ | binary | array _
    | anything => simp [TypeExpr.ofSchema] at htype
  · rintro ⟨properties, additional, hwithin, p, hp, rfl⟩
    have hname : p.name ∈ (TypeExpr.ofFields identify properties).map (·.name) := by
      rw [map_name_ofFields]
      exact List.mem_map_of_mem hp
    obtain ⟨f, hf, hsame⟩ := List.mem_map.1 hname
    refine ⟨f, ⟨TypeExpr.ofFields identify properties, TypeExpr.ofOption identify additional,
      ⟨.object properties additional, hwithin, by rintro members ⟨⟩, rfl, ?_⟩, hf⟩, hsame⟩
    cases properties with
    | nil => cases hp
    | cons => simp [TypeExpr.ofSchema]

end Schema

end ApiClient

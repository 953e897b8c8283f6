import ApiClient.Proofs.Draft.Bases
import ApiClient.Proofs.Module.Sites

/-!
# Raw names of renderings

A component is rendered under its own name. Whatever else is rendered has a raw name that is put
together from parts with spaces between them, so it is the name of no component whose name has none.
-/

namespace ApiClient

open Work Drafting

variable {components : Components}

namespace Rendering

/-- The raw name has a space in it. -/
def Spaced (r : Rendering) : Prop := ' ' ∈ r.raw.toList

/-- The rendering is that of a component, whose references come to an end. -/
def Own (components : Components) (r : Rendering) : Prop :=
  ∃ s identify base, (r.raw, s) ∈ components ∧
    r.type = (TypeExpr.ofSchema identify s).collapse ∧
    (components.recordBase [] r.raw).outcome = .ok base

theorem space_mem_append_left {a : String} (h : ' ' ∈ a.toList) (b : String) :
    ' ' ∈ (a ++ b).toList := by
  rw [String.toList_append]
  exact List.mem_append_left _ h

theorem space_mem_append_right (a : String) {b : String} (h : ' ' ∈ b.toList) :
    ' ' ∈ (a ++ b).toList := by
  rw [String.toList_append]
  exact List.mem_append_right _ h

/-- What is rendered within has a space in its raw name. -/
theorem Calls.spaced {r r' : Rendering} (h : Calls components r r') : r'.Spaced := by
  cases h with
  | item | value | extra => exact space_mem_append_right _ (by decide)
  | option | field =>
    exact space_mem_append_left (space_mem_append_right _ (by decide)) _

end Rendering

namespace Drafting

/-- The type of a component is that of its schema, reduced, and its references come to an end. -/
theorem exists_type_of_componentType {raw : String} {s : Schema} {e : TypeExpr} {d d' : Draft}
    (h : exec (componentType components raw s) d = (.ok e, d')) :
    ∃ identify base, e = (TypeExpr.ofSchema identify s).collapse ∧
      (components.recordBase [] raw).outcome = .ok base := by
  unfold componentType at h
  obtain ⟨base, d₁, hfollow, h⟩ := of_exec_bind h
  obtain ⟨e', d₂, htype, h⟩ := of_exec_bind h
  obtain ⟨rfl, -⟩ := exec_pure_eq_ok.1 h
  have hofSchema : ∃ identify, exec (typeOf s) d₁ = (.ok (.ofSchema identify s), _) := ⟨_, rfl⟩
  obtain ⟨identify, hofSchema⟩ := hofSchema
  rw [hofSchema, Prod.mk.injEq, Except.ok.injEq] at htype
  exact ⟨identify, base, by rw [htype.1], outcome_of_follow hfollow⟩

theorem own_of_mem_componentSites {raw : String} {s : Schema} (hmem : (raw, s) ∈ components)
    {d : Draft} {r : Rendering} (h : r ∈ componentSites components raw s d) :
    r.Own components := by
  obtain ⟨e, d₁, htype, h⟩ := Sites.mem_next.1 h
  obtain ⟨isClass, d₂, -, h⟩ := Sites.mem_next.1 h
  obtain rfl := List.mem_singleton.1 h
  obtain ⟨identify, base, rfl, hbase⟩ := exists_type_of_componentType htype
  exact ⟨s, identify, base, hmem, rfl, hbase⟩

end Drafting

namespace Module

/-- What starts while components are declared are the renderings of the components. -/
theorem own_of_mem_componentsSites {part : Components} (hpart : part ⊆ components) {d : Draft}
    {r : Rendering} (h : r ∈ componentsSites components part d) : r.Own components := by
  induction part generalizing d with
  | nil => cases h
  | cons component rest ih =>
    obtain ⟨raw, s⟩ := component
    obtain ⟨hfirst, hrest⟩ := List.cons_subset.1 hpart
    rcases List.mem_append.1 h with h | h
    · obtain ⟨name, d', -, h⟩ := Sites.mem_next.1 h
      exact own_of_mem_componentSites hfirst h
    · obtain ⟨declaration, d', -, h⟩ := Sites.mem_next.1 h
      exact ih hrest h

end Module

/-! ## Raw names of an operation's types -/

namespace Emission

variable {setting : Setting} {r : Rendering}

theorem spaced_of_mem_schemaSites {s : Schema} {raw : String} (hraw : ' ' ∈ raw.toList)
    {d : Draft} (h : r ∈ schemaSites s raw d) : r.Spaced := by
  obtain ⟨e, d', -, h⟩ := Sites.mem_next.1 h
  obtain rfl := List.mem_singleton.1 h
  exact hraw

theorem spaced_of_mem_bodySites {op : Operation} {mediaType rawPrefix : Value} {d : Draft}
    (h : r ∈ bodySites op mediaType rawPrefix d) : r.Spaced := by
  unfold bodySites at h
  cases hbody : op.body with
  | none =>
    rw [hbody] at h
    cases h
  | some body =>
    rw [hbody] at h
    obtain ⟨payload, d₁, -, h⟩ := Sites.mem_next.1 h
    cases hschema : payload.bind (·.schema) with
    | none =>
      rw [hschema] at h
      cases h
    | some s =>
      rw [hschema] at h
      obtain ⟨plain, d₂, -, h⟩ := Sites.mem_next.1 h
      exact spaced_of_mem_schemaSites (Rendering.space_mem_append_right _ (by decide)) h

theorem spaced_of_mem_parametersSites {typePrefix : Value} {ps : List Parameter}
    {names : Name.Registry} {d : Draft}
    (h : r ∈ parametersSites components typePrefix ps names d) : r.Spaced := by
  induction ps generalizing names d with
  | nil => cases h
  | cons p ps ih =>
    rcases List.mem_append.1 h with h | h
    · obtain ⟨taken, d₁, -, h⟩ := Sites.mem_next.1 h
      obtain ⟨named, d₂, -, h⟩ := Sites.mem_next.1 h
      obtain ⟨plain, d₃, -, h⟩ := Sites.mem_next.1 h
      have hspace := Rendering.space_mem_append_right plain (b := " ") (by decide)
      exact spaced_of_mem_schemaSites (Rendering.space_mem_append_left hspace _) h
    · obtain ⟨argument, d₁, -, h⟩ := Sites.mem_next.1 h
      exact ih h

theorem spaced_responseName {rawPrefix : Value} {response : Response} {first : Bool} {raw : String}
    (h : responseName rawPrefix response first = .ok raw) : ' ' ∈ raw.toList := by
  unfold responseName at h
  obtain ⟨plain, -, h⟩ := Module.of_bind_eq_ok h
  obtain rfl := Except.ok.inj h
  exact Rendering.space_mem_append_left (Rendering.space_mem_append_right plain (by decide)) _

theorem raw_of_mem_outcomeSites {response : Response} {mediaType : Value} {raw : String}
    {d : Draft} (h : r ∈ outcomeSites response mediaType raw d) : r.raw = raw := by
  obtain ⟨payload, d₁, -, h⟩ := Sites.mem_next.1 h
  cases hschema : payload.bind (·.schema) with
  | none =>
    rw [hschema] at h
    cases h
  | some s =>
    rw [hschema] at h
    obtain ⟨e, d₂, -, h⟩ := Sites.mem_next.1 h
    cases hshape : e.collapse with
    | binary =>
      rw [hshape] at h
      cases h
    | _ =>
      rw [hshape] at h
      obtain ⟨text, d₃, -, h⟩ := Sites.mem_next.1 h
      cases hjson : MediaType.isJson text <;> rw [hjson] at h
      · cases h
      · first
        | exact absurd h List.not_mem_nil
        | rw [List.mem_singleton.1 h]

theorem spaced_of_mem_branchSites {mediaType rawPrefix : Value} {response : Response}
    {first : Bool} {d : Draft} (h : r ∈ branchSites mediaType rawPrefix response first d) :
    r.Spaced := by
  unfold branchSites at h
  split at h
  · cases h
  · obtain ⟨condition, d₁, -, h⟩ := Sites.mem_next.1 h
    split at h
    · cases h
    · split at h
      · cases h
      · obtain ⟨raw, d₂, hraw, h⟩ := Sites.mem_next.1 h
        unfold Rendering.Spaced
        rw [raw_of_mem_outcomeSites h]
        exact spaced_responseName (exec_lift_eq_ok.1 hraw).1

theorem spaced_of_mem_branchesSites {location : String} {mediaType rawPrefix : Value}
    {rs : List Response} {first : Bool} {d : Draft}
    (h : r ∈ branchesSites components location mediaType rawPrefix rs first d) : r.Spaced := by
  induction rs generalizing first d with
  | nil => cases h
  | cons response rs ih =>
    rcases List.mem_append.1 h with h | h
    · exact spaced_of_mem_branchSites h
    · obtain ⟨branch, d₁, -, h⟩ := Sites.mem_next.1 h
      exact ih h

theorem spaced_of_mem_methodSites {op : Operation} {mediaType typePrefix : Value} {d : Draft}
    (h : r ∈ methodSites setting op mediaType typePrefix d) : r.Spaced := by
  obtain ⟨rawPrefix, d₁, -, h⟩ := Sites.mem_next.1 h
  rcases List.mem_append.1 h with h | h
  · exact spaced_of_mem_bodySites h
  · obtain ⟨body, d₂, -, h⟩ := Sites.mem_next.1 h
    rcases List.mem_append.1 h with h | h
    · exact spaced_of_mem_parametersSites h
    · obtain ⟨arguments, d₃, -, h⟩ := Sites.mem_next.1 h
      obtain ⟨plan, d₄, -, h⟩ := Sites.mem_next.1 h
      obtain ⟨accepts, d₅, -, h⟩ := Sites.mem_next.1 h
      exact spaced_of_mem_branchesSites h

theorem spaced_of_mem_methodsSites {op : Operation} {rawName typePrefix : Value} {several : Bool}
    {mediaTypes : List Value} {e : Emission}
    (h : r ∈ methodsSites setting op rawName typePrefix several mediaTypes e) : r.Spaced := by
  induction mediaTypes generalizing e with
  | nil => cases h
  | cons mediaType mediaTypes ih =>
    obtain ⟨name, e₁, -, h⟩ := Sites.mem_next.1 h
    rcases List.mem_append.1 h with h | h
    · exact spaced_of_mem_methodSites h
    · obtain ⟨m, e₂, -, h⟩ := Sites.mem_next.1 h
      exact ih h

/-- What starts while an operation is emitted has a space in its raw name. -/
theorem spaced_of_mem_operationSites {op : Operation} {e : Emission}
    (h : r ∈ operationSites setting op e) : r.Spaced := by
  obtain ⟨prepared, e₁, -, h⟩ := Sites.mem_next.1 h
  exact spaced_of_mem_methodsSites h

end Emission

end ApiClient

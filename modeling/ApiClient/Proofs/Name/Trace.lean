import ApiClient.Grouping
import ApiClient.Proofs.Name.Registry
import ApiClient.Proofs.TypeExpr

/-!
# Traces in a registry

Work that was given up leaves the names that it was given in the registry. A registry with such a
trace answers like one without it as long as the names that are given without the trace agree with
those in it: none of them is given for another raw name, and no raw name is given another one.
-/

namespace ApiClient.Name

/-! ## Free identifiers -/

/-- Where more is taken but not the identifier that is free, the same one is free. -/
theorem firstFree_eq {taken taken' : List String} (hsubset : taken' ⊆ taken) {candidate : String}
    (hfree : suffixed candidate (firstFree taken' candidate) ∉ taken) :
    firstFree taken candidate = firstFree taken' candidate := by
  rcases Nat.lt_trichotomy (firstFree taken candidate) (firstFree taken' candidate) with
    hless | hsame | hmore
  · exact absurd (hsubset (mem_of_lt_firstFree hless)) (suffixed_firstFree_not_mem _ _)
  · exact hsame
  · exact absurd (mem_of_lt_firstFree hmore) hfree

namespace Registry

/-- A registry and what some resolutions turn it into. -/
def Reaches (r s : Registry) : Prop := ∃ raws, s = r.resolveAll raws

theorem Reaches.refl (r : Registry) : r.Reaches r := ⟨[], rfl⟩

theorem Reaches.trans {r s t : Registry} (h : r.Reaches s) (h' : s.Reaches t) : r.Reaches t := by
  obtain ⟨raws, rfl⟩ := h
  obtain ⟨raws', rfl⟩ := h'
  exact ⟨raws ++ raws', (r.resolveAll_append raws raws').symm⟩

theorem reaches_resolve (r : Registry) (raw : String) : r.Reaches (r.resolve raw).2 := ⟨[raw], rfl⟩

theorem Reaches.extends {r s : Registry} (h : r.Reaches s) : r.Extends s := by
  obtain ⟨raws, rfl⟩ := h
  exact extends_resolveAll r raws

/-- A resolution takes the identifier that it answers with, and no other one. -/
theorem Sound.mem_taken_resolve_iff {r : Registry} (h : r.Sound) (raw : String)
    {identifier : String} : identifier ∈ (r.resolve raw).2.taken ↔
      identifier ∈ r.taken ∨ identifier = (r.resolve raw).1 := by
  cases hraw : r.identifier? raw with
  | some assigned =>
    rw [resolve_of_assigned hraw]
    refine ⟨.inl, fun hmem ↦ hmem.elim id ?_⟩
    rintro rfl
    exact h.taken hraw
  | none =>
    rw [resolve_of_new hraw, List.mem_cons, or_comm]

/-! ## Two registries -/

/-- The names that were given in a registry from one state of it to a later one. -/
def GivenBetween (r s : Registry) (raw identifier : String) : Prop :=
  r.identifier? raw = none ∧ s.identifier? raw = some identifier

/-- The first registry has what the second one has, and the names of a trace. -/
structure Beside (given : String → String → Prop) (r s : Registry) : Prop where
  left : r.Sound
  right : s.Sound
  style : r.style = s.style
  assigned : ∀ {raw identifier},
    r.identifier? raw = some identifier ↔ s.identifier? raw = some identifier ∨ given raw identifier
  taken : ∀ {identifier}, identifier ∈ r.taken ↔ identifier ∈ s.taken ∨ ∃ raw, given raw identifier

/-- The names of a trace agree with those that a registry has: they are given to the same raw names
just if they are the same. -/
def Agrees (given : String → String → Prop) (final : Registry) : Prop :=
  ∀ {raw identifier raw' identifier'}, final.identifier? raw = some identifier →
    given raw' identifier' → (raw = raw' ↔ identifier = identifier')

variable {given given' : String → String → Prop} {r s final : Registry}

theorem Agrees.mono (h : Agrees given final) (hgiven : ∀ raw x, given' raw x → given raw x) :
    Agrees given' final :=
  fun hraw hgiven' ↦ h hraw (hgiven _ _ hgiven')

theorem mem_assigned {r : Registry} {raw identifier : String}
    (h : r.identifier? raw = some identifier) : (raw, identifier) ∈ r.assigned := by
  obtain ⟨before, after, hsplit, -⟩ := List.lookup_eq_some_iff.1 h
  rw [hsplit]
  exact List.mem_append_right _ List.mem_cons_self

/-- The names given between two registries agree with those of a third one, entry by entry. -/
def Separate (r s final : Registry) : Prop :=
  ∀ p ∈ final.assigned, ∀ q ∈ s.assigned, r.identifier? q.1 = none → (p.1 = q.1 ↔ p.2 = q.2)

instance (r s final : Registry) : Decidable (Separate r s final) :=
  inferInstanceAs (Decidable (∀ p ∈ final.assigned, ∀ q ∈ s.assigned,
    r.identifier? q.1 = none → (p.1 = q.1 ↔ p.2 = q.2)))

theorem Separate.agrees {r s final : Registry} (h : Separate r s final) :
    Agrees (GivenBetween r s) final :=
  fun hraw hgiven ↦ h _ (mem_assigned hraw) _ (mem_assigned hgiven.2) hgiven.1

theorem agrees_empty (final : Registry) : Agrees (fun _ _ ↦ False) final :=
  fun _ hgiven ↦ hgiven.elim

theorem Beside.refl (h : r.Sound) : Beside (fun _ _ ↦ False) r r where
  left := h
  right := h
  style := rfl
  assigned := (or_iff_left id).symm
  taken := (or_iff_left fun ⟨_, h⟩ ↦ h).symm

/-- Names that are given on one side alone are added to the trace. -/
theorem Beside.reaches_left (h : Beside given r s) {r' : Registry} (hreaches : r.Reaches r') :
    Beside (fun raw x ↦ given raw x ∨ GivenBetween r r' raw x) r' s := by
  obtain ⟨raws, rfl⟩ := hreaches
  have hextends := extends_resolveAll r raws
  have hsound := h.left.resolveAll raws
  refine ⟨hsound, h.right, hextends.style.trans h.style, fun {raw x} ↦ ?_, fun {x} ↦ ?_⟩
  · rw [← or_assoc, ← h.assigned]
    constructor
    · intro hraw
      cases hbefore : r.identifier? raw with
      | none => exact .inr ⟨hbefore, hraw⟩
      | some y => exact .inl ((hextends.assigned hbefore).symm.trans hraw)
    · rintro (hraw | ⟨-, hraw⟩)
      · exact hextends.assigned hraw
      · exact hraw
  · rw [exists_or, ← or_assoc, ← h.taken]
    constructor
    · intro hmem
      rcases mem_taken_resolveAll hmem with hbefore | ⟨raw, -, hraw⟩
      · exact .inl hbefore
      · cases hbefore : r.identifier? raw with
        | none => exact .inr ⟨raw, hbefore, hraw⟩
        | some y =>
          have hsame := (hextends.assigned hbefore).symm.trans hraw
          exact .inl (h.left.taken (hbefore.trans hsame))
    · rintro (hmem | ⟨raw, -, hraw⟩)
      · exact hextends.taken hmem
      · exact hsound.taken hraw

/-- A raw name is given the same identifier on both sides. -/
theorem Beside.resolve_fst (h : Beside given r s) (hagrees : Agrees given final) {raw : String}
    (hfinal : (s.resolve raw).2.Extends final) : (r.resolve raw).1 = (s.resolve raw).1 := by
  have hgiven := hfinal.assigned (identifier?_resolve_self s raw)
  cases hs : s.identifier? raw with
  | some x => rw [resolve_of_assigned hs, resolve_of_assigned (h.assigned.2 (.inl hs))]
  | none =>
    cases hr : r.identifier? raw with
    | some x =>
      -- the trace has the raw name, so it is given the identifier of the trace
      have htrace := (h.assigned.1 hr).resolve_left (by simp [hs])
      rw [resolve_of_assigned hr, (hagrees hgiven htrace).1 rfl]
    | none =>
      rw [resolve_of_new hs] at hgiven ⊢
      rw [resolve_of_new hr]
      have hfree : s.nextIdentifier raw ∉ r.taken := by
        intro hmem
        rcases h.taken.1 hmem with hbefore | ⟨raw', htrace⟩
        · exact s.nextIdentifier_not_mem raw hbefore
        · obtain rfl := (hagrees hgiven htrace).2 rfl
          exact absurd (h.assigned.2 (.inr htrace)) (by simp [hr])
      unfold nextIdentifier at hfree ⊢
      rw [h.style]
      rw [firstFree_eq (fun x hx ↦ h.taken.2 (.inl hx)) hfree]

/-- A resolution on both sides leaves the trace as it is. -/
theorem Beside.resolve (h : Beside given r s) (hagrees : Agrees given final) {raw : String}
    (hfinal : (s.resolve raw).2.Extends final) :
    Beside given (r.resolve raw).2 (s.resolve raw).2 := by
  have hsame := h.resolve_fst hagrees hfinal
  have hgiven := hfinal.assigned (identifier?_resolve_self s raw)
  refine ⟨h.left.resolve raw, h.right.resolve raw, ?_, fun {raw' x} ↦ ?_, fun {x} ↦ ?_⟩
  · rw [(extends_resolve r raw).style, (extends_resolve s raw).style, h.style]
  · rw [identifier?_resolve, identifier?_resolve, hsame]
    split
    · next hraw =>
      subst hraw
      exact (or_iff_left_of_imp fun htrace ↦ congrArg some ((hagrees hgiven htrace).1 rfl)).symm
    · exact h.assigned
  · rw [h.left.mem_taken_resolve_iff, h.right.mem_taken_resolve_iff, h.taken, hsame, or_right_comm]

theorem Beside.resolveAll (h : Beside given r s) (hagrees : Agrees given final)
    {raws : List String} (hfinal : (s.resolveAll raws).Extends final) :
    Beside given (r.resolveAll raws) (s.resolveAll raws) := by
  induction raws generalizing r s with
  | nil => exact h
  | cons raw raws ih =>
    exact ih (h.resolve hagrees ((extends_resolveAll _ raws).trans hfinal)) hfinal

/-- A schema has the same type on both sides. -/
theorem Beside.typeOf (h : Beside given r s) (hagrees : Agrees given final) {schema : Schema}
    (hfinal : (s.typeOf schema).2.Extends final) :
    (r.typeOf schema).1 = (s.typeOf schema).1 ∧
      Beside given (r.typeOf schema).2 (s.typeOf schema).2 := by
  have hbeside : Beside given (r.resolveAll schema.references) (s.resolveAll schema.references) :=
    h.resolveAll hagrees hfinal
  refine ⟨TypeExpr.ofSchema_congr schema fun raw hraw ↦ ?_, hbeside⟩
  have hcontains : (s.resolveAll schema.references).contains raw = true := by
    simp [contains_resolveAll, hraw]
  obtain ⟨x, hx⟩ := Option.isSome_iff_exists.1 hcontains
  rw [resolve_of_assigned hx, resolve_of_assigned (hbeside.assigned.2 (.inl hx))]

/-- A value that is not in the trace is looked up alike on both sides. -/
theorem Beside.holds (h : Beside given r s) {raw : Value}
    (hclear : ∀ text x, raw = .text text → ¬ given text x) : r.holds raw = s.holds raw := by
  cases raw with
  | text text =>
    have hsame : r.identifier? text = s.identifier? text := by
      ext x
      rw [h.assigned, or_iff_left (hclear text x rfl)]
    simp only [Registry.holds, contains, hsame]
  | _ => rfl

end Registry

end ApiClient.Name

import ApiClient.Diagnostic
import Mathlib.Order.Defs.Unbundled
import Mathlib.Tactic.Common

/-!
# Diagnostics that are added

Diagnostics are only added to, at the end, and each stage of a run adds those of some kind. One that
is of no such kind is there afterwards just if it was there before.
-/

namespace ApiClient.Diagnostic

/-- Diagnostics of some kind are added at the end. -/
def Appends (P : Diagnostic → Prop) (ds ds' : List Diagnostic) : Prop :=
  ∃ new, ds' = ds ++ new ∧ ∀ x ∈ new, P x

variable {P Q : Diagnostic → Prop} {ds ds' ds'' : List Diagnostic}

theorem Appends.refl (ds : List Diagnostic) : Appends P ds ds :=
  ⟨[], (List.append_nil ds).symm, fun _ hx ↦ absurd hx List.not_mem_nil⟩

theorem Appends.single {x : Diagnostic} (h : P x) : Appends P ds (ds ++ [x]) := by
  refine ⟨[x], rfl, fun y hy ↦ ?_⟩
  rwa [List.mem_singleton.1 hy]

theorem Appends.trans (h : Appends P ds ds') (h' : Appends P ds' ds'') : Appends P ds ds'' := by
  obtain ⟨new, rfl, hnew⟩ := h
  obtain ⟨new', rfl, hnew'⟩ := h'
  refine ⟨new ++ new', List.append_assoc .., fun x hx ↦ ?_⟩
  rcases List.mem_append.1 hx with hx | hx
  · exact hnew x hx
  · exact hnew' x hx

instance : IsPreorder (List Diagnostic) (Appends P) where
  refl := Appends.refl
  trans _ _ _ h h' := h.trans h'

theorem Appends.mono (hP : ∀ x, P x → Q x) (h : Appends P ds ds') : Appends Q ds ds' := by
  obtain ⟨new, heq, hnew⟩ := h
  exact ⟨new, heq, fun x hx ↦ hP x (hnew x hx)⟩

theorem Appends.subset (h : Appends P ds ds') : ds ⊆ ds' := by
  obtain ⟨new, rfl, -⟩ := h
  exact List.subset_append_left _ _

/-- A diagnostic of another kind stays or is missing. -/
theorem Appends.mem_iff (h : Appends P ds ds') {x : Diagnostic} (hx : ¬ P x) :
    x ∈ ds' ↔ x ∈ ds := by
  obtain ⟨new, rfl, hnew⟩ := h
  rw [List.mem_append]
  exact or_iff_left fun hmem ↦ hx (hnew x hmem)

/-- The diagnostic is among those that are added at the end. -/
def Brings (x : Diagnostic) (ds ds' : List Diagnostic) : Prop := ∃ new, ds' = ds ++ new ∧ x ∈ new

theorem brings_single (x : Diagnostic) (ds : List Diagnostic) : Brings x ds (ds ++ [x]) :=
  ⟨[x], rfl, List.mem_singleton_self x⟩

theorem Brings.after {x : Diagnostic} (h : Appends P ds ds') (hx : Brings x ds' ds'') :
    Brings x ds ds'' := by
  obtain ⟨new, rfl, -⟩ := h
  obtain ⟨new', rfl, hmem⟩ := hx
  exact ⟨new ++ new', List.append_assoc .., List.mem_append_right new hmem⟩

theorem Brings.before {x : Diagnostic} (hx : Brings x ds ds') (h : Appends P ds' ds'') :
    Brings x ds ds'' := by
  obtain ⟨new, rfl, hmem⟩ := hx
  obtain ⟨new', rfl, -⟩ := h
  exact ⟨new ++ new', List.append_assoc .., List.mem_append_left new' hmem⟩

/-- The diagnostic is no error. -/
def Minor (x : Diagnostic) : Prop := x.severity ≠ .error

theorem minor_info (location : Value) (message : String) : Minor (.info location message) := by
  rintro ⟨⟩

theorem minor_warning (location : Value) (message : String) :
    Minor (.warning location message) := by
  rintro ⟨⟩

/-- The diagnostic says that an identifier is not the first of its kind. -/
def OfDuplicate (x : Diagnostic) : Prop := ∃ id, x.message = "duplicate operationId " ++ id

/-- The diagnostic is no error, and does not speak of a duplicate. -/
structure Incidental (x : Diagnostic) : Prop where
  minor : x.Minor
  not_ofDuplicate : ¬ x.OfDuplicate

/-- A message that begins otherwise does not speak of a duplicate. -/
theorem not_ofDuplicate {x : Diagnostic} (h : x.message.toList.head? ≠ some 'd') :
    ¬ x.OfDuplicate := by
  rintro ⟨id, hmessage⟩
  rw [hmessage, String.toList_append] at h
  exact h rfl

theorem incidental_info (location : Value) {message : String}
    (h : message.toList.head? ≠ some 'd') : Incidental (.info location message) :=
  ⟨minor_info location message, not_ofDuplicate h⟩

theorem incidental_warning (location : Value) {message : String}
    (h : message.toList.head? ≠ some 'd') : Incidental (.warning location message) :=
  ⟨minor_warning location message, not_ofDuplicate h⟩

end ApiClient.Diagnostic

import ApiClient.Proofs.Emission.Beside
import ApiClient.Proofs.Module.Run

/-!
# Classes beside a trace

The operations of a class are emitted in the same way with a trace and without it. The names of its
methods begin anew with each class, so from one class to the next only the draft and the identifiers
that were met matter.
-/

namespace ApiClient.Module

open Work Emission

variable {setting : Setting} {t : Trace} {final methods : Name.Registry}

/-! ## One class after the other -/

theorem emitAll_append (ops ops' : List Operation) :
    emitAll setting (ops ++ ops') = do
      let first ← emitAll setting ops
      let rest ← emitAll setting ops'
      return first ++ rest := by
  induction ops with
  | nil => simp [emitAll]
  | cons op ops ih =>
    simp only [List.cons_append, emitAll, ih, bind_assoc, pure_bind, List.append_assoc]

theorem emitClasses_append (groups groups' : List Group) :
    emitClasses setting (groups ++ groups') = do
      let first ← emitClasses setting groups
      let rest ← emitClasses setting groups'
      return first ++ rest := by
  induction groups with
  | nil => simp [emitClasses]
  | cons g groups ih =>
    simp only [List.cons_append, emitClasses, ih, bind_assoc, pure_bind]

theorem exec_emitClass (g : Group) (e : Emission) :
    exec (emitClass setting g) e =
      ((exec (emitAll setting g.operations) { e with methods := .forMethods }).1.map (⟨g.name, ·⟩),
        (exec (emitAll setting g.operations) { e with methods := .forMethods }).2) := by
  unfold emitClass
  rw [exec_modify_bind, ← map_eq_pure_bind, exec_map]

/-- The classes do not depend on the names of methods that were given before. -/
theorem exec_emitClasses_forMethods (setting : Setting) (groups : List Group) (e : Emission) :
    (exec (emitClasses setting groups) { e with methods := .forMethods }).1 =
        (exec (emitClasses setting groups) e).1 ∧
      (exec (emitClasses setting groups) { e with methods := .forMethods }).2.draft =
        (exec (emitClasses setting groups) e).2.draft := by
  cases groups with
  | nil => exact ⟨rfl, rfl⟩
  | cons g groups =>
    have hclass : exec (emitClass setting g) { e with methods := .forMethods } =
        exec (emitClass setting g) e := by
      rw [exec_emitClass, exec_emitClass]
    unfold emitClasses
    rw [exec_bind, exec_bind, hclass]
    exact ⟨rfl, rfl⟩

/-! ## With a trace and without it -/

theorem mirrors_emitOrSkip (hclear : t.Clears final methods) {op : Operation} (hop : t.Spares op) :
    (sides t final methods).Mirrors (emitOrSkip setting op) := by
  unfold emitOrSkip
  rw [map_eq_pure_bind]
  apply Sides.Mirrors.recover
  · exact (mirrors_emit hclear hop).bind fun _ ↦ .pure _
  · intro fault
    cases fault with
    | recursiveSchema chain => exact (mirrors_remark _).bind fun _ ↦ .pure _
    | _ => exact .throw _

theorem mirrors_emitAll (hclear : t.Clears final methods) {ops : List Operation}
    (hops : ∀ op ∈ ops, t.Spares op) : (sides t final methods).Mirrors (emitAll setting ops) := by
  induction ops with
  | nil => exact .pure _
  | cons op ops ih =>
    obtain ⟨hop, hrest⟩ := List.forall_mem_cons.1 hops
    exact (mirrors_emitOrSkip hclear hop).bind fun _ ↦ (ih hrest).bind fun _ ↦ .pure _

/-- A trace from the classes before: none of its methods is named in the next class. -/
def unnamed (t : Trace) : Trace := { t with methods := fun _ _ ↦ False }

/-- Two emissions between two classes. -/
def BetweenClasses (t : Trace) (e e' : Emission) : Prop :=
  Beside (unnamed t) { e with methods := .forMethods } { e' with methods := .forMethods }

theorem sound_forMethods : Name.Registry.forMethods.Sound := Name.Registry.sound_new _ _

/-- At the end of a class the names of its methods are put aside. -/
theorem betweenClasses_of_beside {e e' : Emission} (h : Beside t e e') : BetweenClasses t e e' where
  draft := h.draft
  methods := .refl sound_forMethods
  operationIds := h.operationIds

/-- Emitting classes with a trace and without it. -/
def classSides (t : Trace) (final : Name.Registry) : Sides Emission where
  reaches e e' := Draft.Reaches e.draft e'.draft
  preorder :=
    { refl := fun e ↦ refl e.draft
      trans := fun _ _ _ h h' ↦ IsTrans.trans _ _ _ h h' }
  within e := e.draft.registry.Extends final
  within_of_reaches h hwithin := h.registry.extends.trans hwithin
  beside := BetweenClasses t

theorem mirrors_emitClass (hclear : t.toTrace.Clears final) {g : Group}
    (hg : ∀ op ∈ g.operations, t.alike op.id) :
    (classSides t final).Mirrors (emitClass setting g) := by
  have hclear' (methods : Name.Registry) : (unnamed t).Clears final methods :=
    ⟨hclear, Name.Registry.agrees_empty methods⟩
  have hspares : ∀ op ∈ g.operations, (unnamed t).Spares op :=
    fun op hop ↦ ⟨fun _ _ _ hname ↦ hname, hg op hop⟩
  have hmirrors (methods : Name.Registry) :
      (sides (unnamed t) final methods).Mirrors (emitAll setting g.operations) :=
    mirrors_emitAll (hclear' methods) hspares
  refine ⟨fun e ↦ ?_, fun {e e'} h hwithin ↦ ?_⟩
  · unfold Leads
    rw [exec_emitClass]
    exact ((hmirrors .forMethods).respects { e with methods := .forMethods }).draft
  · rw [exec_emitClass] at hwithin ⊢
    rw [exec_emitClass]
    -- the limit to the names of the methods is what the class comes to itself
    obtain ⟨hresult, hbeside⟩ := (hmirrors _).same h ⟨hwithin, .refl _⟩
    have hbetween : BetweenClasses (unnamed t) _ _ := betweenClasses_of_beside hbeside
    exact ⟨congrArg (Except.map _) hresult, hbetween⟩

theorem mirrors_emitClasses (hclear : t.toTrace.Clears final) {groups : List Group}
    (hgroups : ∀ g ∈ groups, ∀ op ∈ g.operations, t.alike op.id) :
    (classSides t final).Mirrors (emitClasses setting groups) := by
  induction groups with
  | nil => exact .pure _
  | cons g groups ih =>
    obtain ⟨hg, hrest⟩ := List.forall_mem_cons.1 hgroups
    exact (mirrors_emitClass hclear hg).bind fun _ ↦ (ih hrest).bind fun _ ↦ .pure _

/-! ## How far emitting leads -/

/-- The trace of nothing. -/
def noTrace : Trace where
  given _ _ := False
  declared := []
  methods _ _ := False
  alike _ := True

theorem clears_noTrace (final methods : Name.Registry) : noTrace.Clears final methods where
  draft := ⟨Name.Registry.agrees_empty final, fun _ ↦ List.not_mem_nil⟩
  methods := Name.Registry.agrees_empty methods

theorem spares_noTrace (op : Operation) : noTrace.Spares op := ⟨fun _ _ _ hname ↦ hname, trivial⟩

theorem reaches_emit (op : Operation) : Respects Reaches (emit setting op) :=
  (mirrors_emit (clears_noTrace .forModule .forMethods) (spares_noTrace op)).respects

theorem reaches_emitAll (ops : List Operation) : Respects Reaches (emitAll setting ops) :=
  (mirrors_emitAll (clears_noTrace .forModule .forMethods) fun op _ ↦ spares_noTrace op).respects

theorem reaches_emitAll_append (ops ops' : List Operation) (e : Emission) :
    Reaches (exec (emitAll setting ops) e).2 (exec (emitAll setting (ops ++ ops')) e).2 := by
  rw [emitAll_append]
  exact Respects.after (fun _ ↦ (reaches_emitAll ops').bind fun _ ↦ .pure _) _ e

theorem reaches_emitClasses (groups : List Group) (e : Emission) :
    Draft.Reaches e.draft (exec (emitClasses setting groups) e).2.draft :=
  (mirrors_emitClasses (t := noTrace) (clears_noTrace .forModule .forMethods).draft
    fun _ _ _ _ ↦ trivial).respects e

end ApiClient.Module

import ApiClient.Proofs.Draft.Beside
import ApiClient.Proofs.Emission.Method

/-!
# Emitting beside a trace

An emission that was given up leaves a trace in the draft, among the names of the methods and among
the identifiers of the operations that were met. The operations that the trace spares are emitted in
the same way with it and without it, as long as the names that are given without the trace agree
with those in it.
-/

namespace ApiClient.Emission

open Work Draft Drafting

/-! ## Methods -/

section

variable {components : Components} {setting : Setting} {t : Draft.Trace} {final : Name.Registry}
  (hclear : t.Clears final)

include hclear

theorem mirrors_renderSchema (s : Schema) (raw : String) :
    (Draft.sides t final).Mirrors (renderSchema components s raw) :=
  (mirrors_typeOf hclear s).bind fun e ↦ mirrors_render hclear e raw

theorem mirrors_bodyArgument (op : Operation) (mediaType rawPrefix : Value)
    (names : Name.Registry) :
    (Draft.sides t final).Mirrors (bodyArgument components op mediaType rawPrefix names) := by
  unfold bodyArgument
  cases op.body with
  | none => exact .pure _
  | some body =>
    apply (Sides.Mirrors.lift _).bind
    rintro (_ | ⟨_ | s⟩)
    · exact .pure _
    · exact (Sides.Mirrors.pure _).bind fun _ ↦ .pure _
    · apply (Sides.Mirrors.lift _).bind
      intro plain
      exact (mirrors_renderSchema hclear s _).bind fun _ ↦ .pure _

theorem mirrors_parameterArguments (typePrefix : Value) (ps : List Parameter)
    (names : Name.Registry) :
    (Draft.sides t final).Mirrors (parameterArguments components typePrefix ps names) := by
  induction ps generalizing names with
  | nil => exact .pure _
  | cons p ps ih =>
    have hfirst :
        (Draft.sides t final).Mirrors (parameterArgument components typePrefix p names) :=
      (Sides.Mirrors.lift _).bind fun _ ↦ (Sides.Mirrors.lift _).bind fun _ ↦
        (Sides.Mirrors.lift _).bind fun _ ↦
          (mirrors_renderSchema hclear p.schema _).bind fun _ ↦ .pure _
    apply hfirst.bind
    rintro ⟨argument, names'⟩
    exact (ih names').bind fun _ ↦ .pure _

theorem mirrors_successOutcome (r : Response) (mediaType : Value) (raw : String) :
    (Draft.sides t final).Mirrors (successOutcome components r mediaType raw) := by
  unfold successOutcome
  apply (Sides.Mirrors.lift _).bind
  intro payload
  cases payload.bind (·.schema) with
  | none => exact .pure _
  | some s =>
    apply (mirrors_typeOf hclear s).bind
    intro e
    cases e.collapse with
    | binary => exact .pure _
    | anything =>
      apply (Sides.Mirrors.lift _).bind
      intro text
      split <;> exact .pure _
    | _ =>
      apply (Sides.Mirrors.lift _).bind
      intro text
      split
      · exact .pure _
      · exact (mirrors_render hclear _ raw).bind fun _ ↦ .pure _

theorem mirrors_branchFor (location : String) (mediaType rawPrefix : Value) (r : Response)
    (first : Bool) :
    (Draft.sides t final).Mirrors
      (branchFor components location mediaType rawPrefix r first) := by
  unfold branchFor
  split
  · exact .pure _
  · apply (Sides.Mirrors.lift _).bind
    intro condition
    cases condition with
    | none => exact (mirrors_report _).bind fun _ ↦ .pure _
    | some condition =>
      simp only
      split
      · exact .pure _
      · apply (Sides.Mirrors.lift _).bind
        intro raw
        exact (mirrors_successOutcome hclear r mediaType raw).bind fun _ ↦ .pure _

theorem mirrors_branchesFor (location : String) (mediaType rawPrefix : Value) (rs : List Response)
    (first : Bool) :
    (Draft.sides t final).Mirrors
      (branchesFor components location mediaType rawPrefix rs first) := by
  induction rs generalizing first with
  | nil => exact .pure _
  | cons r rs ih =>
    apply (mirrors_branchFor hclear location mediaType rawPrefix r first).bind
    rintro ⟨b, first'⟩
    exact (ih first').bind fun _ ↦ .pure _

theorem mirrors_emitMethod (op : Operation) (mediaType : Value) (name : String)
    (typePrefix : Value) :
    (Draft.sides t final).Mirrors (emitMethod setting op mediaType name typePrefix) := by
  unfold emitMethod
  apply (Sides.Mirrors.lift _).bind
  intro rawPrefix
  apply (mirrors_bodyArgument hclear op mediaType rawPrefix _).bind
  rintro ⟨body, names⟩
  apply (mirrors_parameterArguments hclear typePrefix _ names).bind
  intro parameters
  apply (Sides.Mirrors.lift _).bind
  intro plan
  apply (Sides.Mirrors.lift _).bind
  intro accepts
  exact (mirrors_branchesFor hclear op.location mediaType rawPrefix op.responses true).bind
    fun _ ↦ .pure _

end

/-! ## Operations -/

/-- What an emission that was given up leaves behind: what it leaves in the draft, the raw names of
its methods with their identifiers, and which identifiers of operations were met all the same
without it. -/
structure Trace extends Draft.Trace where
  methods : String → String → Prop
  alike : Value → Prop

/-- The names of two registries, that of the module and that of the methods, agree with those of a
trace. -/
structure Trace.Clears (t : Trace) (final methods : Name.Registry) : Prop where
  draft : t.toTrace.Clears final
  methods : Name.Registry.Agrees t.methods methods

/-- The identifier of an operation is not in the trace. -/
structure Trace.Spares (t : Trace) (op : Operation) : Prop where
  methods : ∀ text name, op.id = .text text → ¬ t.methods text name
  alike : t.alike op.id

/-- The first emission has what the second one has, and the trace. -/
structure Beside (t : Trace) (e e' : Emission) : Prop where
  draft : Draft.Beside t.toTrace e.draft e'.draft
  methods : Name.Registry.Beside t.methods e.methods e'.methods
  operationIds : ∀ id, t.alike id → id.isIn e.operationIds = id.isIn e'.operationIds

/-- An emission and what emitting into the same class may turn it into. -/
structure Reaches (e e' : Emission) : Prop where
  draft : Draft.Reaches e.draft e'.draft
  methods : e.methods.Reaches e'.methods

instance : IsPreorder Emission Reaches where
  refl e := ⟨refl e.draft, .refl _⟩
  trans _ _ _ h h' := ⟨IsTrans.trans _ _ _ h.draft h'.draft, h.methods.trans h'.methods⟩

/-- Emitting with a trace and without it, where two registries set the limit to the names that are
given without it. -/
def sides (t : Trace) (final methods : Name.Registry) : Sides Emission where
  reaches := Reaches
  preorder := inferInstance
  within e := e.draft.registry.Extends final ∧ e.methods.Extends methods
  within_of_reaches h hwithin :=
    ⟨h.draft.registry.extends.trans hwithin.1, h.methods.extends.trans hwithin.2⟩
  beside := Beside t

section

variable {setting : Setting} {t : Trace} {final methods : Name.Registry}

theorem mirrors_drafting {α : Type} {work : Drafting α}
    (h : (Draft.sides t.toTrace final).Mirrors work) :
    (sides t final methods).Mirrors (drafting work) where
  respects e := ⟨h.respects e.draft, .refl _⟩
  same {e e'} hbeside hwithin := by
    obtain ⟨hresult, hdraft⟩ := h.same hbeside.draft hwithin.1
    exact ⟨hresult, hdraft, hbeside.methods, hbeside.operationIds⟩

theorem mirrors_remark (x : Diagnostic) : (sides t final methods).Mirrors (report x) :=
  mirrors_drafting (mirrors_report x)

theorem mirrors_nameMethod (hclear : t.Clears final methods) (raw : Value) :
    (sides t final methods).Mirrors (nameMethod raw) := by
  cases raw with
  | text raw =>
    have hexec (e : Emission) : exec (nameMethod (.text raw)) e =
      (.ok (e.methods.resolve raw).1, { e with methods := (e.methods.resolve raw).2 }) := rfl
    refine ⟨fun e ↦ ⟨refl e.draft, Name.Registry.reaches_resolve e.methods raw⟩, ?_⟩
    intro e e' h hwithin
    rw [hexec] at hwithin ⊢
    rw [hexec, h.methods.resolve_fst hclear.methods hwithin.2]
    exact ⟨rfl, h.draft, h.methods.resolve hclear.methods hwithin.2, h.operationIds⟩
  | _ => exact ⟨fun e ↦ refl e, fun h _ ↦ ⟨rfl, h⟩⟩

theorem mirrors_chooseRawName {op : Operation} (hop : t.Spares op) :
    (sides t final methods).Mirrors (chooseRawName op) := by
  unfold chooseRawName Operation.rawName
  apply Sides.Mirrors.get_bind
  · intro e e' h
    simp only [(Beside.methods h).holds hop.methods]
  intro e
  apply (Sides.Mirrors.lift _).bind
  intro rawName
  apply (Sides.Mirrors.lift _).bind
  intro held
  split
  · apply (Sides.Mirrors.lift _).bind
    intro literal
    exact (mirrors_remark _).bind fun _ ↦ .pure _
  · exact .pure _

/-- An operation that is met on both sides is in neither trace. -/
theorem Beside.meet {e e' : Emission} (h : Beside t e e') (id : Value) :
    Beside t { e with operationIds := id :: e.operationIds }
      { e' with operationIds := id :: e'.operationIds } where
  draft := h.draft
  methods := h.methods
  operationIds id' hid := by
    have hsame := h.operationIds id' hid
    unfold Value.isIn at hsame ⊢
    rw [List.any_cons, List.any_cons, hsame]

theorem mirrors_chooseTypePrefix {op : Operation} (hop : t.Spares op) :
    (sides t final methods).Mirrors (chooseTypePrefix op) := by
  unfold chooseTypePrefix Operation.typePrefix
  apply Sides.Mirrors.get_bind
  · intro e e' h
    rw [Beside.operationIds h op.id hop.alike]
  intro e
  apply (Sides.Mirrors.lift _).bind
  intro typePrefix
  have hmeet : (sides t final methods).Mirrors
      (modify fun e ↦ { e with operationIds := op.id :: e.operationIds }) :=
    .modify (fun e ↦ ⟨refl e.draft, .refl _⟩) fun h _ ↦ Beside.meet h op.id
  exact hmeet.bind fun _ ↦ .pure _

theorem mirrors_prepare {op : Operation} (hop : t.Spares op) :
    (sides t final methods).Mirrors (prepare setting op) := by
  unfold prepare
  apply Sides.Mirrors.bind
  · unfold remarkDefault
    split
    · exact (Sides.Mirrors.lift _).bind fun _ ↦ mirrors_remark _
    · exact .pure _
  intro _
  apply (mirrors_chooseRawName hop).bind
  intro rawName
  exact (mirrors_chooseTypePrefix hop).bind fun _ ↦ .pure _

theorem mirrors_emitMethods (hclear : t.Clears final methods) (op : Operation)
    (rawName typePrefix : Value) (several : Bool) (mediaTypes : List Value) :
    (sides t final methods).Mirrors
      (emitMethods setting op rawName typePrefix several mediaTypes) := by
  induction mediaTypes with
  | nil => exact .pure _
  | cons mediaType mediaTypes ih =>
    have hname : (sides t final methods).Mirrors
        (nameVariant setting rawName mediaType several) :=
      (Sides.Mirrors.lift _).bind fun raw ↦ mirrors_nameMethod hclear raw
    apply hname.bind
    intro name
    apply (mirrors_drafting (mirrors_emitMethod hclear.draft op mediaType name typePrefix)).bind
    intro m
    exact ih.bind fun _ ↦ .pure _

/-- An operation that a trace spares is emitted in the same way with the trace and without it. -/
theorem mirrors_emit (hclear : t.Clears final methods) {op : Operation} (hop : t.Spares op) :
    (sides t final methods).Mirrors (emit setting op) :=
  (mirrors_prepare hop).bind fun (rawName, typePrefix) ↦
    mirrors_emitMethods hclear op rawName typePrefix _ _

end

end ApiClient.Emission

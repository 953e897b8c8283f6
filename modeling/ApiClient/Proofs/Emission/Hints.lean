import ApiClient.Proofs.Dispatch
import ApiClient.Proofs.Draft.Hints
import ApiClient.Proofs.Emission.Method

/-!
# Identifiers in the annotations of methods

The annotations of a method are those of its arguments, of its branches, and of what it returns.
Each is the rendered type of a schema of the operation or the name of a builtin type, and what the
method returns is put together from its branches. So when the schemas of an operation refer to
components only, the annotations of its methods are settled in the draft that the emission leaves,
and the draft stays fit when the emission fails.
-/

namespace ApiClient

open Work Lexis Draft

/-! ## Schemas of an operation -/

namespace Content

/-- The schemas of all media types. -/
def schemas (content : Content) : List Schema := content.filterMap (·.2.schema)

theorem mem_schemas_of_find? {content : Content} {mediaType : Value} {payload : Payload}
    {s : Schema} (h : content.find? mediaType = .ok (some payload))
    (hs : payload.schema = some s) : s ∈ content.schemas := by
  unfold find? at h
  split at h
  · obtain ⟨entry, hentry, rfl⟩ := Option.map_eq_some_iff.1 (Except.ok.inj h)
    exact List.mem_filterMap.2 ⟨entry, List.mem_of_find?_eq_some hentry, hs⟩
  · cases h

end Content

theorem Response.mem_schemas_of_payload? {r : Response} {mediaType : Value}
    {payload : Option Payload} {s : Schema} (h : r.payload? mediaType = .ok payload)
    (hs : payload.bind (·.schema) = some s) : s ∈ r.content.schemas := by
  unfold payload? at h
  cases hown : r.content.find? mediaType with
  | error fault =>
    rw [hown] at h
    cases h
  | ok own =>
    cases hany : r.content.find? "*/*" with
    | error fault =>
      rw [hown, hany] at h
      cases h
    | ok any =>
      rw [hown, hany] at h
      obtain rfl := Except.ok.inj h
      cases own with
      | some payload => exact Content.mem_schemas_of_find? hown hs
      | none =>
        obtain ⟨payload, rfl, hs⟩ := Option.bind_eq_some_iff.1 hs
        exact Content.mem_schemas_of_find? hany hs

/-- The schemas of the parameters, of the body and of the responses. -/
def Operation.schemas (op : Operation) : List Schema :=
  op.parameters.map (·.schema) ++ op.body.toList.flatMap (·.content.schemas) ++
    op.responses.flatMap (·.content.schemas)

/-- The annotations in a method. -/
def Method.hints (m : Method) : List String :=
  m.arguments.map (·.hint) ++ m.branches.map (·.hint) ++ [m.returns]

namespace Emission

variable {components : Components} {choices : List Value} {setting : Setting} {d : Draft}

/-! ## Drafting a method -/

/-- The annotation of a schema is settled. -/
theorem ensures_renderSchema (hfit : d.Fit components choices) {s : Schema}
    (hs : s.Covered components choices) (raw : String) :
    Draft.Ensures components choices (renderSchema components s raw) d
      fun hint d' ↦ d'.Spells components choices hint := by
  apply (Drafting.ensures_typeOf hfit hs).bind
  intro e d' hfit' _ he
  exact Drafting.ensures_render hfit' e raw he

theorem ensures_bodyArgument (hfit : d.Fit components choices) {op : Operation}
    (hop : ∀ s ∈ op.schemas, s.Covered components choices) (mediaType rawPrefix : Value)
    (names : Name.Registry) :
    Draft.Ensures components choices (bodyArgument components op mediaType rawPrefix names) d
      fun out d' ↦ ∀ a ∈ out.1, d'.Spells components choices a.hint := by
  unfold bodyArgument
  cases hbody : op.body with
  | none => exact .pure hfit fun _ h ↦ nomatch h
  | some body =>
    refine .lift_bind hfit fun payload hpayload ↦ ?_
    cases payload with
    | none => exact .pure hfit fun _ h ↦ nomatch h
    | some payload =>
      simp only
      cases hschema : payload.schema with
      | none => exact .pure hfit fun a ha ↦ Option.mem_some_iff.1 ha ▸ spells_any
      | some s =>
        have hmem : s ∈ op.schemas := by
          refine List.mem_append_left _ (List.mem_append_right _ ?_)
          rw [hbody]
          exact List.mem_flatMap.2
            ⟨body, List.mem_singleton_self _, Content.mem_schemas_of_find? hpayload hschema⟩
        refine .lift_bind hfit fun plain _ ↦ ?_
        apply (ensures_renderSchema hfit (hop s hmem) _).bind
        intro hint d' hfit' _ hhint
        exact .pure hfit' fun a ha ↦ Option.mem_some_iff.1 ha ▸ hhint

theorem ensures_parameterArgument (hfit : d.Fit components choices) (typePrefix : Value)
    {p : Parameter} (hp : p.schema.Covered components choices) (names : Name.Registry) :
    Draft.Ensures components choices (parameterArgument components typePrefix p names) d
      fun out d' ↦ d'.Spells components choices out.1.1.hint := by
  unfold parameterArgument
  refine .lift_bind hfit fun taken _ ↦ ?_
  refine .lift_bind hfit fun named _ ↦ ?_
  refine .lift_bind hfit fun plain _ ↦ ?_
  apply (ensures_renderSchema hfit hp _).bind
  intro hint d' hfit' _ hhint
  exact .pure hfit' hhint

theorem ensures_parameterArguments (hfit : d.Fit components choices) (typePrefix : Value)
    {ps : List Parameter} (hps : ∀ p ∈ ps, p.schema.Covered components choices)
    (names : Name.Registry) :
    Draft.Ensures components choices (parameterArguments components typePrefix ps names) d
      fun out d' ↦ ∀ a ∈ out, d'.Spells components choices a.1.hint := by
  induction ps generalizing d names with
  | nil => exact .pure hfit fun _ ha ↦ absurd ha List.not_mem_nil
  | cons p ps ih =>
    obtain ⟨hp, hps⟩ := List.forall_mem_cons.1 hps
    unfold parameterArguments
    apply (ensures_parameterArgument hfit typePrefix hp names).bind
    intro out d₁ hfit₁ _ hfirst
    apply (ih hfit₁ hps out.2).bind
    intro rest d₂ hfit₂ hlater hrest
    exact .pure hfit₂ (List.forall_mem_cons.2 ⟨hfirst.later hlater, hrest⟩)

theorem ensures_successOutcome (hfit : d.Fit components choices) {r : Response}
    (hr : ∀ s ∈ r.content.schemas, s.Covered components choices) (mediaType : Value)
    (raw : String) :
    Draft.Ensures components choices (successOutcome components r mediaType raw) d
      fun out d' ↦ d'.Spells components choices out.2 := by
  unfold successOutcome
  refine .lift_bind hfit fun payload hpayload ↦ ?_
  cases hschema : payload.bind (·.schema) with
  | none => exact .pure hfit (spells_builtin (by decide))
  | some s =>
    apply (Drafting.ensures_typeOf hfit
      (hr s (Response.mem_schemas_of_payload? hpayload hschema))).bind
    intro e d₁ hfit₁ _ he
    have hshape : d₁.Knows components choices e.collapse.atoms := he.of_collapse rfl
    cases hcollapse : e.collapse with
    | binary => exact .pure hfit₁ (spells_builtin (by decide))
    | anything =>
      refine .lift_bind hfit₁ fun text _ ↦ ?_
      split
      · exact .pure hfit₁ (spells_builtin (by decide))
      · exact .pure hfit₁ spells_any
    | _ =>
      refine .lift_bind hfit₁ fun text _ ↦ ?_
      split
      · exact .pure hfit₁ (spells_builtin (by decide))
      · rw [hcollapse] at hshape
        apply (Drafting.ensures_render hfit₁ _ raw hshape).bind
        intro hint d₂ hfit₂ _ hhint
        exact .pure hfit₂ hhint

theorem ensures_branchFor (hfit : d.Fit components choices) (location : String)
    (mediaType rawPrefix : Value) {r : Response}
    (hr : ∀ s ∈ r.content.schemas, s.Covered components choices) (first : Bool) :
    Draft.Ensures components choices (branchFor components location mediaType rawPrefix r first) d
      fun out d' ↦ ∀ b ∈ out.1, d'.Spells components choices b.hint := by
  unfold branchFor
  split
  · exact .pure hfit fun _ h ↦ nomatch h
  · refine .lift_bind hfit fun condition _ ↦ ?_
    cases condition with
    | none =>
      apply (Drafting.ensures_report hfit _).bind
      intro _ d' hfit' _ _
      exact .pure hfit' fun _ h ↦ nomatch h
    | some condition =>
      simp only
      split
      · -- An error has no annotation.
        exact .pure hfit fun b hb ↦ Option.mem_some_iff.1 hb ▸ clears_empty.reads
      · refine .lift_bind hfit fun raw _ ↦ ?_
        apply (ensures_successOutcome hfit hr mediaType raw).bind
        intro out d' hfit' _ hhint
        exact .pure hfit' fun b hb ↦ Option.mem_some_iff.1 hb ▸ hhint

theorem ensures_branchesFor (hfit : d.Fit components choices) (location : String)
    (mediaType rawPrefix : Value) {rs : List Response}
    (hrs : ∀ r ∈ rs, ∀ s ∈ r.content.schemas, s.Covered components choices) (first : Bool) :
    Draft.Ensures components choices
      (branchesFor components location mediaType rawPrefix rs first) d
      fun bs d' ↦ ∀ b ∈ bs, d'.Spells components choices b.hint := by
  induction rs generalizing d first with
  | nil => exact .pure hfit fun _ hb ↦ absurd hb List.not_mem_nil
  | cons r rs ih =>
    obtain ⟨hr, hrs⟩ := List.forall_mem_cons.1 hrs
    unfold branchesFor
    apply (ensures_branchFor hfit location mediaType rawPrefix hr first).bind
    intro out d₁ hfit₁ _ hfirst
    apply (ih hfit₁ hrs out.2).bind
    intro rest d₂ hfit₂ hlater hrest
    refine .pure hfit₂ fun b hb ↦ ?_
    rcases List.mem_append.1 hb with hb | hb
    · exact (hfirst b (Option.mem_toList.1 hb)).later hlater
    · exact hrest b hb

/-- What a method returns is put together from what its branches return. -/
theorem spells_returnHint {branches : List Branch}
    (h : ∀ b ∈ branches, d.Spells components choices b.hint) :
    d.Spells components choices (returnHint branches) := by
  unfold returnHint
  simp only
  split
  · exact spells_builtin (by decide)
  · split
    · exact spells_any
    · refine spells_union fun hint hhint ↦ ?_
      obtain ⟨b, hb, rfl⟩ := List.mem_map.1 (List.mem_eraseDups.1 hhint)
      exact h b (List.mem_filter.1 hb).1

theorem mem_placeBody {body : Option Argument} {parameters : List Argument} {a : Argument}
    (h : a ∈ placeBody body parameters) : a ∈ body ∨ a ∈ parameters := by
  cases body with
  | none => exact .inr h
  | some b =>
    unfold placeBody at h
    simp only at h
    split at h
    · rcases List.mem_cons.1 h with rfl | h
      · exact .inl rfl
      · exact .inr h
    · rcases List.mem_append.1 h with h | h
      · exact .inr h
      · exact .inl (Option.mem_some_iff.2 (List.mem_singleton.1 h).symm)

theorem mem_orderParameters {ps : List Parameter} {p : Parameter}
    (h : p ∈ Operation.orderParameters ps) : p ∈ ps := by
  rcases List.mem_append.1 h with h | h <;> exact (List.mem_filter.1 h).1

/-- The annotations of a method that is emitted for an operation are settled. -/
theorem ensures_emitMethod {op : Operation}
    (hop : ∀ s ∈ op.schemas, s.Covered setting.components choices) (mediaType : Value)
    (name : String) (typePrefix : Value) (hfit : d.Fit setting.components choices) :
    Draft.Ensures setting.components choices (emitMethod setting op mediaType name typePrefix) d
      fun m d' ↦ ∀ hint ∈ m.hints, d'.Spells setting.components choices hint := by
  have hparameters : ∀ p ∈ Operation.orderParameters op.parameters,
      p.schema.Covered setting.components choices := fun p hp ↦
    hop _ (List.mem_append_left _
      (List.mem_append_left _ (List.mem_map_of_mem (mem_orderParameters hp))))
  have hresponses : ∀ r ∈ op.responses, ∀ s ∈ r.content.schemas,
      s.Covered setting.components choices := fun r hr s hs ↦
    hop s (List.mem_append_right _ (List.mem_flatMap.2 ⟨r, hr, hs⟩))
  unfold emitMethod
  refine .lift_bind hfit fun rawPrefix _ ↦ ?_
  apply (ensures_bodyArgument hfit hop mediaType rawPrefix _).bind
  intro body d₁ hfit₁ _ hbody
  apply (ensures_parameterArguments hfit₁ typePrefix hparameters body.2).bind
  intro parameters d₂ hfit₂ hlater₂ harguments
  refine .lift_bind hfit₂ fun plan _ ↦ ?_
  refine .lift_bind hfit₂ fun accepts _ ↦ ?_
  apply (ensures_branchesFor hfit₂ op.location mediaType rawPrefix hresponses true).bind
  intro branches d₃ hfit₃ hlater₃ hbranches
  have harranged : ∀ b ∈ arrange branches, d₃.Spells setting.components choices b.hint :=
    fun b hb ↦ hbranches b ((arrange_perm branches).mem_iff.1 hb)
  refine .pure hfit₃ fun hint hhint ↦ ?_
  simp only [Method.hints, List.mem_append, List.mem_map, List.mem_singleton] at hhint
  rcases hhint with (⟨a, ha, rfl⟩ | ⟨b, hb, rfl⟩) | rfl
  · rcases mem_placeBody ha with ha | ha
    · exact (hbody a ha).later (hlater₂.trans hlater₃)
    · obtain ⟨parameter, hparameter, rfl⟩ := List.mem_map.1 ha
      exact (harguments parameter hparameter).later hlater₃
  · exact harranged b hb
  · exact spells_returnHint harranged

/-! ## Emission -/

/-- The draft of the emission is fit. -/
def Fit (components : Components) (choices : List Value) (e : Emission) : Prop :=
  e.draft.Fit components choices

/-- The draft of one emission is a later one than that of the other. -/
def Later (e e' : Emission) : Prop := e.draft.Later e'.draft

instance : IsPreorder Emission Later where
  refl e := refl (r := Draft.Later) e.draft
  trans _ _ _ := Draft.Later.trans

/-- What a piece of work on an emission with a fit draft ensures. -/
abbrev Ensures {α : Type} (components : Components) (choices : List Value) (x : Emitting α)
    (e : Emission) (Q : α → Emission → Prop) : Prop :=
  Work.Ensures (Fit components choices) Later x e Q

variable {e : Emission}

theorem ensures_drafting {α : Type} {work : Drafting α} {Q : α → Draft → Prop}
    (h : Draft.Ensures components choices work e.draft Q) :
    Ensures components choices (drafting work) e fun a e' ↦ Q a e'.draft where
  fit := h.fit
  rel := h.rel
  result {a e'} hexec := by
    rw [exec_drafting, Prod.mk.injEq] at hexec
    obtain ⟨hresult, rfl⟩ := hexec
    exact h.result (Prod.ext hresult rfl)

theorem ensures_report (hfit : e.Fit components choices) (x : Diagnostic) :
    Ensures components choices (report x) e fun _ _ ↦ True :=
  ensures_drafting (Drafting.ensures_report hfit x)

/-- What changes only names and identifiers leaves the draft as it is. -/
theorem ensures_modify (hfit : e.Fit components choices) {f : Emission → Emission}
    (h : (f e).draft = e.draft) :
    Ensures components choices (modify f : Emitting Unit) e fun _ _ ↦ True := by
  refine .modify ?_ ?_ trivial
  · unfold Fit
    rwa [h]
  · unfold Later
    rw [h]
    exact refl (r := Draft.Later) e.draft

theorem ensures_nameVariant (hfit : e.Fit components choices) (rawName mediaType : Value)
    (several : Bool) :
    Ensures components choices (nameVariant setting rawName mediaType several) e
      fun _ _ ↦ True := by
  unfold nameVariant nameMethod
  refine .lift_bind hfit fun raw _ ↦ ?_
  apply Work.Ensures.get_bind
  refine .lift_bind hfit fun named _ ↦ ?_
  apply (ensures_modify hfit rfl).bind
  intro _ e' hfit' _ _
  exact .pure hfit' trivial

theorem ensures_remarkDefault (hfit : e.Fit components choices) (op : Operation) :
    Ensures components choices (remarkDefault setting op) e fun _ _ ↦ True := by
  unfold remarkDefault
  split
  · exact .lift_bind hfit fun plain _ ↦ ensures_report hfit _
  · exact .pure hfit trivial

theorem ensures_chooseRawName (hfit : e.Fit components choices) (op : Operation) :
    Ensures components choices (chooseRawName op) e fun _ _ ↦ True := by
  unfold chooseRawName
  apply Work.Ensures.get_bind
  refine .lift_bind hfit fun rawName _ ↦ ?_
  refine .lift_bind hfit fun held _ ↦ ?_
  split
  · refine .lift_bind hfit fun literal _ ↦ ?_
    apply (ensures_report hfit _).bind
    intro _ e' hfit' _ _
    exact .pure hfit' trivial
  · exact .pure hfit trivial

theorem ensures_chooseTypePrefix (hfit : e.Fit components choices) (op : Operation) :
    Ensures components choices (chooseTypePrefix op) e fun _ _ ↦ True := by
  unfold chooseTypePrefix
  apply Work.Ensures.get_bind
  refine .lift_bind hfit fun typePrefix _ ↦ ?_
  apply (ensures_modify hfit rfl).bind
  intro _ e' hfit' _ _
  exact .pure hfit' trivial

theorem ensures_prepare (hfit : e.Fit components choices) (op : Operation) :
    Ensures components choices (prepare setting op) e fun _ _ ↦ True := by
  unfold prepare
  apply (ensures_remarkDefault hfit op).bind
  intro _ e₁ hfit₁ _ _
  apply (ensures_chooseRawName hfit₁ op).bind
  intro rawName e₂ hfit₂ _ _
  apply (ensures_chooseTypePrefix hfit₂ op).bind
  intro typePrefix e₃ hfit₃ _ _
  exact .pure hfit₃ trivial

/-- The annotations of the methods are settled. -/
def SpellsAll (components : Components) (choices : List Value) (e : Emission)
    (methods : List Method) : Prop :=
  ∀ m ∈ methods, ∀ hint ∈ m.hints, e.draft.Spells components choices hint

theorem SpellsAll.later {methods : List Method} {e' : Emission}
    (h : e.SpellsAll components choices methods) (hlater : e.Later e') :
    e'.SpellsAll components choices methods :=
  fun m hm hint hhint ↦ (h m hm hint hhint).later hlater

theorem ensures_emitMethods {op : Operation}
    (hop : ∀ s ∈ op.schemas, s.Covered setting.components choices) (rawName typePrefix : Value)
    (several : Bool) (mediaTypes : List Value) (hfit : e.Fit setting.components choices) :
    Ensures setting.components choices
      (emitMethods setting op rawName typePrefix several mediaTypes) e
      fun methods e' ↦ e'.SpellsAll setting.components choices methods := by
  induction mediaTypes generalizing e with
  | nil => exact .pure hfit fun _ hm ↦ absurd hm List.not_mem_nil
  | cons mediaType mediaTypes ih =>
    unfold emitMethods
    apply (ensures_nameVariant hfit rawName mediaType several).bind
    intro name e₁ hfit₁ _ _
    apply (ensures_drafting (ensures_emitMethod hop mediaType name typePrefix hfit₁)).bind
    intro m e₂ hfit₂ _ hm
    apply (ih hfit₂).bind
    intro rest e₃ hfit₃ hlater hrest
    exact .pure hfit₃ (List.forall_mem_cons.2
      ⟨fun hint hhint ↦ (hm hint hhint).later hlater, hrest⟩)

/-- The annotations of the methods that are emitted for an operation are settled. -/
theorem ensures_emit {op : Operation}
    (hop : ∀ s ∈ op.schemas, s.Covered setting.components choices)
    (hfit : e.Fit setting.components choices) :
    Ensures setting.components choices (emit setting op) e
      fun methods e' ↦ e'.SpellsAll setting.components choices methods := by
  unfold emit
  apply (ensures_prepare hfit op).bind
  intro prepared e' hfit' _ _
  exact ensures_emitMethods hop _ _ _ _ hfit'

end Emission

end ApiClient

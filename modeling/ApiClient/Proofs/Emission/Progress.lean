import ApiClient.Proofs.Draft.Remarks
import ApiClient.Proofs.Emission.Method

/-!
# Progress of an emission

Emitting an operation renders types and makes remarks, none of which is an error. So whether it
succeeds or not, nothing that is declared is replaced, no alias is added, and the errors stay as
they are.
-/

namespace ApiClient.Emission

open Work Draft Drafting

variable {components : Components} {setting : Setting}

theorem progress_renderSchema (s : Schema) (raw : String) :
    Respects (Progress components) (renderSchema components s raw) :=
  (progress_typeOf s).bind fun e ↦ progress_render e raw

theorem progress_bodyArgument (op : Operation) (mediaType rawPrefix : Value)
    (names : Name.Registry) :
    Respects (Progress components) (bodyArgument components op mediaType rawPrefix names) := by
  unfold bodyArgument
  cases op.body with
  | none => exact .pure _
  | some body =>
    apply (Respects.lift _).bind
    rintro (_ | ⟨_ | s⟩)
    · exact .pure _
    · exact (Respects.pure _).bind fun _ ↦ .pure _
    · apply (Respects.lift _).bind
      intro plain
      exact (progress_renderSchema s _).bind fun _ ↦ .pure _

theorem progress_parameterArguments (typePrefix : Value) (ps : List Parameter)
    (names : Name.Registry) :
    Respects (Progress components) (parameterArguments components typePrefix ps names) := by
  induction ps generalizing names with
  | nil => exact .pure _
  | cons p ps ih =>
    have hfirst : Respects (Progress components) (parameterArgument components typePrefix p names) :=
      (Respects.lift _).bind fun _ ↦ (Respects.lift _).bind fun _ ↦ (Respects.lift _).bind fun _ ↦
        (progress_renderSchema p.schema _).bind fun _ ↦ .pure _
    apply hfirst.bind
    rintro ⟨argument, names'⟩
    exact (ih names').bind fun _ ↦ .pure _

theorem progress_successOutcome (r : Response) (mediaType : Value) (raw : String) :
    Respects (Progress components) (successOutcome components r mediaType raw) := by
  unfold successOutcome
  apply (Respects.lift _).bind
  intro payload
  cases payload.bind (·.schema) with
  | none => exact .pure _
  | some s =>
    apply (progress_typeOf s).bind
    intro e
    cases e.collapse with
    | binary => exact .pure _
    | anything =>
      apply (Respects.lift _).bind
      intro text
      split <;> exact .pure _
    | _ =>
      apply (Respects.lift _).bind
      intro text
      split
      · exact .pure _
      · exact (progress_render _ raw).bind fun _ ↦ .pure _

theorem progress_branchFor (location : String) (mediaType rawPrefix : Value) (r : Response)
    (first : Bool) :
    Respects (Progress components) (branchFor components location mediaType rawPrefix r first) := by
  unfold branchFor
  split
  · exact .pure _
  · apply (Respects.lift _).bind
    intro condition
    cases condition with
    | none =>
      have hincidental : Diagnostic.Incidental
          (.warning location ("unrecognized status " ++ quote r.status ++ " ignored")) :=
        Diagnostic.incidental_warning _ (by simp)
      exact (progress_report hincidental).bind fun _ ↦ .pure _
    | some condition =>
      simp only
      split
      · exact .pure _
      · apply (Respects.lift _).bind
        intro raw
        exact (progress_successOutcome r mediaType raw).bind fun _ ↦ .pure _

theorem progress_branchesFor (location : String) (mediaType rawPrefix : Value) (rs : List Response)
    (first : Bool) :
    Respects (Progress components)
      (branchesFor components location mediaType rawPrefix rs first) := by
  induction rs generalizing first with
  | nil => exact .pure _
  | cons r rs ih =>
    apply (progress_branchFor location mediaType rawPrefix r first).bind
    rintro ⟨b, first'⟩
    exact (ih first').bind fun _ ↦ .pure _

theorem progress_emitMethod (op : Operation) (mediaType : Value) (name : String)
    (typePrefix : Value) :
    Respects (Progress setting.components) (emitMethod setting op mediaType name typePrefix) := by
  unfold emitMethod
  apply (Respects.lift _).bind
  intro rawPrefix
  apply (progress_bodyArgument op mediaType rawPrefix _).bind
  rintro ⟨body, names⟩
  apply (progress_parameterArguments typePrefix _ names).bind
  intro parameters
  apply (Respects.lift _).bind
  intro plan
  apply (Respects.lift _).bind
  intro accepts
  exact (progress_branchesFor op.location mediaType rawPrefix op.responses true).bind
    fun _ ↦ .pure _

/-- The draft of an emission grows, and diagnostics of some kind are added. -/
def Advances (components : Components) (P : Diagnostic → Prop) (e e' : Emission) : Prop :=
  Grows components Rendering.All e.draft e'.draft ∧
    Diagnostic.Appends P e.draft.diagnostics e'.draft.diagnostics

variable {P : Diagnostic → Prop}

instance : IsPreorder Emission (Advances components P) where
  refl e := ⟨refl e.draft, .refl _⟩
  trans _ _ _ h h' := ⟨IsTrans.trans _ _ _ h.1 h'.1, h.2.trans h'.2⟩

/-- What adds incidental diagnostics adds no errors. -/
theorem advances_minor {α : Type} {x : Emitting α}
    (h : Respects (Advances components Diagnostic.Incidental) x) :
    Respects (Advances components Diagnostic.Minor) x :=
  fun e ↦ ⟨(h e).1, Diagnostic.Appends.mono (fun _ ↦ Diagnostic.Incidental.minor) (h e).2⟩

theorem advances_drafting {α : Type} {work : Drafting α}
    (h : Respects (Progress components) work) :
    Respects (Advances components Diagnostic.Incidental) (drafting work) :=
  fun e ↦ h e.draft

theorem advances_report {x : Diagnostic} (h : P x) : Respects (Advances components P) (report x) :=
  fun e ↦ ⟨grows_report x e.draft, .single h⟩

/-- What changes only names and identifiers leaves the draft as it is. -/
theorem advances_modify {f : Emission → Emission} (h : ∀ e, (f e).draft = e.draft) :
    Respects (Advances components P) (modify f : Emitting Unit) := by
  apply Respects.modify
  intro e
  unfold Advances
  rw [h]
  exact refl (r := Advances components P) e

theorem advances_nameVariant (rawName mediaType : Value) (several : Bool) :
    Respects (Advances components P) (nameVariant setting rawName mediaType several) := by
  intro e
  obtain ⟨text, -, h⟩ | ⟨fault, h⟩ := nameVariant_cases setting rawName mediaType several e
  · unfold Leads
    rw [h]
    exact refl (r := Advances components P) e
  · unfold Leads
    rw [h]
    exact refl (r := Advances components P) e

theorem advances_remarkDefault (op : Operation) :
    Respects (Advances components Diagnostic.Incidental) (remarkDefault setting op) := by
  unfold remarkDefault
  split
  · refine (Respects.lift _).bind fun plain ↦ advances_report ?_
    exact Diagnostic.incidental_info _ (by simp)
  · exact .pure _

theorem advances_chooseRawName (op : Operation) :
    Respects (Advances components Diagnostic.Minor) (chooseRawName op) := by
  unfold chooseRawName
  apply Respects.get.bind
  intro e
  apply (Respects.lift _).bind
  intro rawName
  apply (Respects.lift _).bind
  intro held
  split
  · apply (Respects.lift _).bind
    intro literal
    exact (advances_report (Diagnostic.minor_warning _ _)).bind fun _ ↦ .pure _
  · exact .pure _

theorem advances_chooseTypePrefix (op : Operation) :
    Respects (Advances components P) (chooseTypePrefix op) := by
  unfold chooseTypePrefix
  apply Respects.get.bind
  intro e
  apply (Respects.lift _).bind
  intro typePrefix
  exact Respects.bind (advances_modify fun _ ↦ rfl) fun _ ↦ .pure _

theorem advances_emitMethods (op : Operation) (rawName typePrefix : Value) (several : Bool)
    (mediaTypes : List Value) :
    Respects (Advances setting.components Diagnostic.Incidental)
      (emitMethods setting op rawName typePrefix several mediaTypes) := by
  induction mediaTypes with
  | nil => exact .pure _
  | cons mediaType mediaTypes ih =>
    apply (advances_nameVariant rawName mediaType several).bind
    intro name
    apply (advances_drafting (progress_emitMethod op mediaType name typePrefix)).bind
    intro m
    exact ih.bind fun _ ↦ .pure _

theorem advances_prepare (op : Operation) :
    Respects (Advances components Diagnostic.Minor) (prepare setting op) := by
  apply (advances_minor (advances_remarkDefault op)).bind
  intro _
  apply (advances_chooseRawName op).bind
  intro rawName
  exact (advances_chooseTypePrefix op).bind fun _ ↦ .pure _

/-- Whether it succeeds or not, the emission of an operation only renders types and makes remarks. -/
theorem advances_emit (op : Operation) :
    Respects (Advances setting.components Diagnostic.Minor) (emit setting op) :=
  (advances_prepare op).bind fun (rawName, typePrefix) ↦
    advances_minor (advances_emitMethods op rawName typePrefix _ _)

end ApiClient.Emission

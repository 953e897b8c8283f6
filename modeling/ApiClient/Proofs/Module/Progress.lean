import ApiClient.Proofs.Emission.Progress
import ApiClient.Proofs.Module.DeclaredComponents
import ApiClient.Proofs.Operation

/-!
# Progress of a run

Once the components are declared the draft of a run only grows. The errors that are added say that
an operation was skipped, so a component was degraded just if the content has an error that says so.
-/

namespace ApiClient.Module

open Work Draft Drafting

variable {components : Components} {setting : Emission.Setting}

/-- The diagnostic is no error, or it says that an operation was skipped. -/
def Passing (x : Diagnostic) : Prop :=
  x.Minor ∨ ∃ location chain,
    x = .error location ("operation skipped: " ++ Fault.recursionText chain)

/-- What is said of a degraded component is not said of a skipped operation. -/
theorem not_passing_degraded (raw : String) (chain : List String) :
    ¬ Passing (.error ("schema " ++ raw) (Fault.recursionText chain)) := by
  rintro (hminor | ⟨location, chain', hsame⟩)
  · exact hminor rfl
  · have hmessage : Fault.recursionText chain =
        "operation skipped: " ++ Fault.recursionText chain' := congrArg Diagnostic.message hsame
    unfold Fault.recursionText at hmessage
    have hfirst := congrArg (fun s : String ↦ s.toList.head?) hmessage
    have hdegraded : "unsupported recursive schema: ".toList.head? = some 'u' := by decide
    have hskipped : "operation skipped: ".toList.head? = some 'o' := by decide
    simp only [String.toList_append, List.head?_append] at hfirst
    rw [hdegraded, hskipped] at hfirst
    simp at hfirst

theorem degraded_iff_of_appends {ds ds' : List Diagnostic} (h : Diagnostic.Appends Passing ds ds')
    (raw : String) : Degraded ds' raw ↔ Degraded ds raw :=
  exists_congr fun chain ↦ h.mem_iff (not_passing_degraded raw chain)

/-- The draft grows, and errors that are added say that an operation was skipped. -/
def Continues (components : Components) (e e' : Emission) : Prop :=
  Grows components Rendering.All e.draft e'.draft ∧
    Diagnostic.Appends Passing e.draft.diagnostics e'.draft.diagnostics

instance : IsPreorder Emission (Continues components) where
  refl e := ⟨refl e.draft, .refl _⟩
  trans _ _ _ h h' := ⟨IsTrans.trans _ _ _ h.1 h'.1, h.2.trans h'.2⟩

theorem continues_of_advances {e e' : Emission}
    (h : Emission.Advances components Diagnostic.Minor e e') :
    Continues components e e' :=
  ⟨h.1, Diagnostic.Appends.mono (fun _ hminor ↦ .inl hminor) h.2⟩

theorem continues_emitOrSkip (op : Operation) :
    Respects (Continues setting.components) (emitOrSkip setting op) := by
  intro e
  unfold emitOrSkip
  rw [map_eq_pure_bind]
  have hemit : Respects (Continues setting.components) (Emission.emit setting op) :=
    fun e ↦ continues_of_advances (Emission.advances_emit op e)
  refine Leads.catch ((hemit e).bind fun _ e' _ ↦ Respects.pure _ e') fun fault e' _ ↦ ?_
  cases fault with
  | recursiveSchema chain =>
    have hreport : Respects (Continues setting.components) (Emission.report
        (.error op.location ("operation skipped: " ++ Fault.recursionText chain))) :=
      fun e ↦ ⟨grows_report _ e.draft, .single (.inr ⟨_, chain, rfl⟩)⟩
    exact (hreport e').bind fun _ e'' _ ↦ Respects.pure _ e''
  | _ => exact Respects.throw _ e'

theorem continues_emitAll (ops : List Operation) :
    Respects (Continues setting.components) (emitAll setting ops) := by
  induction ops with
  | nil => exact .pure _
  | cons op ops ih => exact (continues_emitOrSkip op).bind fun _ ↦ ih.bind fun _ ↦ .pure _

theorem continues_emitClasses (groups : List Group) :
    Respects (Continues setting.components) (emitClasses setting groups) := by
  induction groups with
  | nil => exact .pure _
  | cons g groups ih =>
    have hclear : Respects (Continues setting.components)
        (modify fun e : Emission ↦ { e with methods := .forMethods } : Emitting Unit) :=
      fun e ↦ ⟨refl e.draft, .refl _⟩
    have hclass : Respects (Continues setting.components) (emitClass setting g) :=
      hclear.bind fun _ ↦ (continues_emitAll g.operations).bind fun _ ↦ .pure _
    exact hclass.bind fun _ ↦ ih.bind fun _ ↦ .pure _

namespace Run

variable {description : Value} {options : Options} {content : Content}
  (run : Run description options content)

theorem continues_emitted : Continues run.components run.emission run.final := by
  have hrespects : Respects (Continues run.setting.components)
    (emitClasses run.setting run.groups) := continues_emitClasses run.groups
  exact hrespects.of_exec run.exec_emitClasses

/-- While the classes are emitted, the draft grows. -/
theorem growth_emitted :
    Growth run.components Rendering.All run.emission.draft run.final.draft :=
  run.continues_emitted.1 run.sound_emission

/-- What is declared once the components are declared stays in the final draft as it is. -/
theorem growth_final : Growth run.components Rendering.All run.declared run.final.draft := by
  have hsound := run.aging_declared.sound
  obtain ⟨hregistry, hextends⟩ := sound_ofOperations run.operations hsound.registry
  exact (Growth.ofRegistry hsound hregistry hextends run.diagnostics).trans run.growth_emitted

/-- The errors that are added once the components are declared say that operations were skipped. -/
theorem appends_final :
    Diagnostic.Appends Passing run.declared.diagnostics content.diagnostics := by
  have hread : Diagnostic.Appends Diagnostic.Minor run.declared.diagnostics run.diagnostics :=
    (Operation.minor_parseAll description options).of_exec run.operations_eq
  rw [run.diagnostics_eq]
  exact (hread.mono fun _ hminor ↦ .inl hminor).trans run.continues_emitted.2

end Run

end ApiClient.Module

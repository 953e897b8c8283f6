import ApiClient.Proofs.Emission.Sites
import ApiClient.Proofs.Module.Run
import Mathlib.Logic.Relation

/-!
# Renderings of a run

A run renders the components, then the types of the operations, and whatever is rendered within
these. The draft of the run ages by nothing else, and what a rendering leaves ages into the final
draft.
-/

namespace ApiClient

open Work Draft Drafting

variable {known : Name.Registry} {components : Components}

/-! ## Sites of the components -/

namespace Drafting

/-- The rendering of a component, once it is known whether it has a class of its own. -/
def componentSites (components : Components) (raw : String) (s : Schema) : Sites Draft :=
  .next (componentType components raw s) fun e ↦ .next (hasClass components e) fun _ ↦
    fun d ↦ [⟨d, e, raw⟩]

theorem quiet_componentType (raw : String) (s : Schema) :
    Quiet id known components (componentType components raw s) := by
  unfold componentType
  exact .bind (quiet_follow _) fun _ ↦ .bind (quiet_typeOf s) fun _ ↦ .pure _

theorem quiet_hasClass (e : TypeExpr) : Quiet id known components (hasClass components e) := by
  unfold hasClass
  split
  · exact quiet_follow _
  · exact .pure _

theorem starts_declareComponent {raw name : String} (hcomponent : raw ∈ components.map (·.1))
    (hraw : known.identifier? raw = some name) (s : Schema) :
    Starts id known components (declareComponent components raw s name)
      (componentSites components raw s) := by
  unfold declareComponent
  apply Starts.next (quiet_componentType raw s)
  intro e
  apply Starts.next (quiet_hasClass e)
  intro isClass
  apply (starts_render e raw).first
  intro hint
  cases isClass with
  | true =>
    apply Quiet.bind .get
    intro d
    split
    · exact .pure _
    · exact .throw _
  | false => exact .bind (quiet_declare_synonym hcomponent hraw hint) fun _ ↦ .pure _

theorem starts_declareSchema {raw : String} (hcomponent : raw ∈ components.map (·.1))
    (s : Schema) :
    Starts id known components (declareSchema components raw s)
      (.next (identify raw) fun _ ↦ componentSites components raw s) := by
  unfold declareSchema
  apply starts_identify_bind
  intro known name hraw
  apply (starts_declareComponent hcomponent hraw s).recover
  intro fault
  cases fault with
  | recursiveSchema chain =>
    apply Quiet.bind (quiet_report _)
    intro _
    exact .bind (quiet_declare_synonym hcomponent hraw "Any") fun _ ↦ .pure _
  | _ => exact .throw _

end Drafting

namespace Module

/-- The renderings of components in order. -/
def componentsSites (components : Components) : Components → Sites Draft
  | [] => .none
  | (raw, s) :: rest =>
    Sites.or (.next (identify raw) fun _ ↦ componentSites components raw s) <|
      .next (declareSchema components raw s) fun _ ↦ componentsSites components rest

theorem starts_declareAll {part : Components} (hpart : part ⊆ components) :
    Starts id known components (declareAll components part) (componentsSites components part) := by
  induction part with
  | nil => exact .quiet (.pure _)
  | cons component rest ih =>
    obtain ⟨raw, s⟩ := component
    have hcomponent : raw ∈ components.map (·.1) :=
      List.mem_map.2 ⟨(raw, s), hpart List.mem_cons_self, rfl⟩
    apply (starts_declareSchema hcomponent s).bind
    intro _
    exact ih fun c hc ↦ hpart (List.mem_cons_of_mem _ hc)

/-! ## Sites of the classes -/

variable {setting : Emission.Setting}

/-- The renderings of the operations of a class. -/
def operationsSites (setting : Emission.Setting) : List Operation → Sites Emission
  | [] => .none
  | op :: ops => (Emission.operationSites setting op).or <|
    .next (emitOrSkip setting op) fun _ ↦ operationsSites setting ops

/-- The renderings of the operations of classes. -/
def classesSites (setting : Emission.Setting) : List Group → Sites Emission
  | [] => .none
  | g :: groups =>
    Sites.or (.next (modify fun e : Emission ↦ { e with methods := .forMethods }) fun _ ↦
      operationsSites setting g.operations) <|
      .next (emitClass setting g) fun _ ↦ classesSites setting groups

theorem starts_emitOrSkip (op : Operation) :
    Starts Emission.draft known setting.components (emitOrSkip setting op)
      (Emission.operationSites setting op) := by
  unfold emitOrSkip
  rw [map_eq_pure_bind]
  apply ((Emission.starts_emit op).first fun _ ↦ .pure _).recover
  intro fault
  cases fault with
  | recursiveSchema chain =>
    exact .bind (Emission.quiet_drafting (quiet_report _)) fun _ ↦ .pure _
  | _ => exact .throw _

theorem starts_emitAll (ops : List Operation) :
    Starts Emission.draft known setting.components (emitAll setting ops)
      (operationsSites setting ops) := by
  induction ops with
  | nil => exact .quiet (.pure _)
  | cons op ops ih => exact (starts_emitOrSkip op).bind fun _ ↦ ih.first fun _ ↦ .pure _

theorem starts_emitClasses (setting : Emission.Setting) (groups : List Group) :
    Starts Emission.draft known setting.components (emitClasses setting groups)
      (classesSites setting groups) := by
  induction groups with
  | nil => exact .quiet (.pure _)
  | cons g groups ih =>
    refine Starts.bind ?_ fun _ ↦ ih.first fun _ ↦ .pure _
    exact .next (.modify fun _ ↦ rfl) fun _ ↦ (starts_emitAll g.operations).first fun _ ↦ .pure _

/-- Grouping gives identifiers to the raw names of the classes in order. -/
theorem resolveAll_ofOperations (ops : List Operation) (registry : Name.Registry) :
    (Group.ofOperations ops registry).2 =
      registry.resolveAll (ops.map fun op ↦ op.tag.plain ++ " api") := by
  unfold Group.ofOperations
  generalize ([] : List Group) = groups
  induction ops generalizing groups registry with
  | nil => rfl
  | cons op ops ih => exact ih _ _

theorem sound_ofOperations (ops : List Operation) {registry : Name.Registry}
    (h : registry.Sound) :
    (Group.ofOperations ops registry).2.Sound ∧
      registry.Extends (Group.ofOperations ops registry).2 := by
  rw [resolveAll_ofOperations]
  exact ⟨h.resolveAll _, Name.Registry.extends_resolveAll _ _⟩

/-! ## Renderings of a run -/

namespace Run

variable {description : Value} {options : Options} {content : Content}
  (run : Run description options content)

/-- The draft in which the names of the components are taken and nothing is declared. -/
def start : Draft :=
  { Draft.empty with registry := Name.Registry.forModule.resolveAll (run.components.map (·.1)) }

/-- The emission from which the classes are emitted. -/
def emission : Emission where
  draft := { run.declared with
    registry := (Group.ofOperations run.operations run.declared.registry).2
    diagnostics := run.diagnostics }
  operationIds := []
  methods := .forMethods

/-- A component is rendered. -/
def RendersComponent (r : Rendering) : Prop :=
  r ∈ componentsSites run.components run.components run.start

/-- A body, a parameter or a successful response of an operation is rendered. -/
def RendersOperation (r : Rendering) : Prop := r ∈ classesSites run.setting run.groups run.emission

/-- A rendering takes place in the run: of a component, for an operation, or within another one. -/
def Renders (r : Rendering) : Prop :=
  ∃ root, (run.RendersComponent root ∨ run.RendersOperation root) ∧
    Relation.ReflTransGen (Rendering.Calls run.components) root r

/-- A rendering takes place in the run and is not that of a component. -/
def RendersInline (r : Rendering) : Prop :=
  (∃ root, run.RendersComponent root ∧
    Relation.TransGen (Rendering.Calls run.components) root r) ∨
  ∃ root, run.RendersOperation root ∧
    Relation.ReflTransGen (Rendering.Calls run.components) root r

theorem RendersInline.renders {run : Run description options content} {r : Rendering}
    (h : run.RendersInline r) : run.Renders r := by
  rcases h with ⟨root, hroot, hcalls⟩ | ⟨root, hroot, hcalls⟩
  · exact ⟨root, .inl hroot, hcalls.to_reflTransGen⟩
  · exact ⟨root, .inr hroot, hcalls⟩

theorem closed_renders : Rendering.Closed run.components run.Renders := by
  rintro r r' ⟨root, hroot, hcalls⟩ hcall
  exact ⟨root, hroot, hcalls.tail hcall⟩

theorem sound_start : run.start.Sound where
  registry := (Name.Registry.sound_new _ _).resolveAll _
  names := List.nodup_nil

theorem exec_declareAll :
    exec (declareAll run.components run.components) run.start = (.ok (), run.declared) :=
  run.declared_eq

theorem exec_emitClasses :
    exec (emitClasses run.setting run.groups) run.emission = (.ok content.classes, run.final) :=
  run.final_eq

theorem starts_components :
    Starts id run.start.registry run.components (declareAll run.components run.components)
      (componentsSites run.components run.components) :=
  starts_declareAll (List.Subset.refl _)

theorem starts_operations :
    Starts Emission.draft run.emission.draft.registry run.components
      (emitClasses run.setting run.groups) (classesSites run.setting run.groups) :=
  starts_emitClasses run.setting run.groups

/-- While the components are declared, the draft ages by renderings of the run. -/
theorem aging_declared : Aging run.components run.Renders run.start run.declared := by
  have hstarts := run.starts_components.ages run.closed_renders run.start
    fun r hr ↦ ⟨r, .inl hr, .refl⟩
  exact hstarts.of_exec run.exec_declareAll run.sound_start (.refl _)

/-- Grouping the operations takes names only. -/
theorem aging_grouped (S : Rendering → Prop) :
    Aging run.components S run.declared run.emission.draft := by
  have hsound := run.aging_declared.sound
  obtain ⟨hregistry, hextends⟩ := sound_ofOperations run.operations hsound.registry
  exact (Growth.ofRegistry hsound hregistry hextends run.diagnostics).aging

theorem sound_emission : run.emission.draft.Sound := (run.aging_grouped run.Renders).sound

/-- While the classes are emitted, the draft ages by renderings of the run. -/
theorem aging_emitted : Aging run.components run.Renders run.emission.draft run.final.draft := by
  have hstarts := run.starts_operations.ages run.closed_renders run.emission
    fun r hr ↦ ⟨r, .inr hr, .refl⟩
  exact hstarts.of_exec run.exec_emitClasses run.sound_emission (.refl _)

/-- From start to end the draft ages by renderings of the run. -/
theorem aging_final : Aging run.components run.Renders run.start run.final.draft :=
  (run.aging_declared.trans (run.aging_grouped _)).trans run.aging_emitted

/-- Every class of the final draft was declared by a rendering of the run. -/
theorem exists_declares {name : String} {c : RecordClass}
    (h : run.final.draft.declarations.find? name = some (.record c)) :
    ∃ r, run.Renders r ∧ r.Declares run.components c ∧
      run.final.draft.registry.identifier? r.raw = some name := by
  rcases run.aging_final.new h with hstart | hdeclares
  · cases hstart
  · exact hdeclares

/-- Every alias of the final draft has the name of a component. -/
theorem exists_component {name text : String}
    (h : run.final.draft.declarations.find? name = some (.synonym name text)) :
    ∃ raw ∈ run.components.map (·.1),
      run.final.draft.registry.identifier? raw = some name := by
  rcases run.aging_final.aliases h with hstart | hcomponent
  · cases hstart
  · exact hcomponent

/-- A rendering that starts at a site of the run meets a sound draft, and what it leaves ages into
the final draft. -/
theorem aging_of_site {r : Rendering} (h : run.RendersComponent r ∨ run.RendersOperation r) :
    r.draft.Sound ∧ Aging run.components Rendering.All (r.after run.components) run.final.draft := by
  rcases h with hcomponent | hoperation
  · obtain ⟨hsound, hafter⟩ :=
      run.starts_components.after run.start run.sound_start (.refl _) r hcomponent
    rw [run.exec_declareAll] at hafter
    have hemitted : Aging run.components Rendering.All run.emission.draft run.final.draft :=
      run.aging_emitted.mono fun _ _ ↦ trivial
    exact ⟨hsound, (hafter.trans (run.aging_grouped _)).trans hemitted⟩
  · obtain ⟨hsound, hafter⟩ :=
      run.starts_operations.after run.emission run.sound_emission (.refl _) r hoperation
    rw [run.exec_emitClasses] at hafter
    exact ⟨hsound, hafter⟩

/-- So do the renderings within others. -/
theorem aging_of_renders {r : Rendering} (h : run.Renders r) :
    r.draft.Sound ∧ Aging run.components Rendering.All (r.after run.components) run.final.draft := by
  obtain ⟨root, hroot, hcalls⟩ := h
  induction hcalls with
  | refl => exact run.aging_of_site hroot
  | tail _ hcall ih =>
    obtain ⟨hsound, hafter⟩ := ih
    exact ⟨(hcall.grows_before hsound).sound, (hcall.growth_after hsound).aging.trans hafter⟩

end Run

end Module

end ApiClient

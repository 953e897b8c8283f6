import ApiClient.Proofs.Emission.Hints
import ApiClient.Proofs.Module.BaseClasses
import ApiClient.Proofs.Module.ModuleNames

/-!
# Identifiers in the annotations of a module

From the draft in which nothing is declared to the one that the last class leaves, the draft of a
run stays fit: an operation that is skipped leaves behind declarations whose annotations are
settled, and every component has been declared before the first operation. So when all references of
a description are names of its components, what an annotation of the module names is a type of the
language, a constant, or a declaration of the module. Only the literals of some choices, such as
dates, bring in further names.
-/

namespace ApiClient.Module

open Work Draft

variable {components : Components} {choices : List Value} {setting : Emission.Setting}
  {d : Draft} {e : Emission}

/-! ## Declaring and emitting -/

theorem ensures_declareAll (hfit : d.Fit components choices) {part : Components}
    (hpart : ∀ component ∈ part, component.2.Covered components choices) :
    Draft.Ensures components choices (declareAll components part) d fun _ _ ↦ True := by
  induction part generalizing d with
  | nil => exact .pure hfit trivial
  | cons component rest ih =>
    obtain ⟨raw, s⟩ := component
    obtain ⟨hs, hrest⟩ := List.forall_mem_cons.1 hpart
    unfold declareAll
    apply (Drafting.ensures_declareSchema hfit raw hs).bind
    intro _ d' hfit' _ _
    exact ih hfit' hrest

theorem hints_escapeMethodDoc (m : Method) : (escapeMethodDoc m).hints = m.hints := rfl

/-- An operation that is skipped has no methods. -/
theorem ensures_emitOrSkip {op : Operation}
    (hop : ∀ s ∈ op.schemas, s.Covered setting.components choices)
    (hfit : e.Fit setting.components choices) :
    Emission.Ensures setting.components choices (emitOrSkip setting op) e
      fun methods e' ↦ e'.SpellsAll setting.components choices methods := by
  unfold emitOrSkip
  rw [map_eq_pure_bind]
  have hemitted : Emission.Ensures setting.components choices
      (do return (← Emission.emit setting op).map escapeMethodDoc) e
      fun methods e' ↦ e'.SpellsAll setting.components choices methods := by
    apply (Emission.ensures_emit hop hfit).bind
    intro methods e' hfit' _ hmethods
    refine .pure hfit' fun m hm ↦ ?_
    obtain ⟨plain, hplain, rfl⟩ := List.mem_map.1 hm
    rw [hints_escapeMethodDoc]
    exact hmethods plain hplain
  apply hemitted.recover
  intro fault e' hfit' _
  cases fault with
  | recursiveSchema chain =>
    apply (Emission.ensures_report hfit' _).bind
    intro _ e'' hfit'' _ _
    exact .pure hfit'' fun _ hm ↦ absurd hm List.not_mem_nil
  | _ => exact .throw _ hfit'

theorem ensures_emitAll {ops : List Operation}
    (hops : ∀ op ∈ ops, ∀ s ∈ op.schemas, s.Covered setting.components choices)
    (hfit : e.Fit setting.components choices) :
    Emission.Ensures setting.components choices (emitAll setting ops) e
      fun methods e' ↦ e'.SpellsAll setting.components choices methods := by
  induction ops generalizing e with
  | nil => exact .pure hfit fun _ hm ↦ absurd hm List.not_mem_nil
  | cons op ops ih =>
    obtain ⟨hop, hops⟩ := List.forall_mem_cons.1 hops
    unfold emitAll
    apply (ensures_emitOrSkip hop hfit).bind
    intro methods e₁ hfit₁ _ hmethods
    apply (ih hops hfit₁).bind
    intro rest e₂ hfit₂ hlater hrest
    exact .pure hfit₂ (List.forall_mem_append.2 ⟨hmethods.later hlater, hrest⟩)

/-- The annotations in the classes of operations are settled. -/
theorem ensures_emitClasses {groups : List Group}
    (hgroups : ∀ g ∈ groups, ∀ op ∈ g.operations, ∀ s ∈ op.schemas,
      s.Covered setting.components choices)
    (hfit : e.Fit setting.components choices) :
    Emission.Ensures setting.components choices (emitClasses setting groups) e
      fun classes e' ↦ ∀ c ∈ classes, e'.SpellsAll setting.components choices c.methods := by
  induction groups generalizing e with
  | nil => exact .pure hfit fun _ hc ↦ absurd hc List.not_mem_nil
  | cons g groups ih =>
    obtain ⟨hg, hgroups⟩ := List.forall_mem_cons.1 hgroups
    have hclass : Emission.Ensures setting.components choices (emitClass setting g) e
        fun c e' ↦ e'.SpellsAll setting.components choices c.methods := by
      unfold emitClass
      apply (Emission.ensures_modify hfit rfl).bind
      intro _ e₁ hfit₁ _ _
      apply (ensures_emitAll hg hfit₁).bind
      intro methods e₂ hfit₂ _ hmethods
      exact .pure hfit₂ hmethods
    unfold emitClasses
    apply hclass.bind
    intro c e₁ hfit₁ _ hc
    apply (ih hgroups hfit₁).bind
    intro rest e₂ hfit₂ hlater hrest
    exact .pure hfit₂ (List.forall_mem_cons.2 ⟨hc.later hlater, hrest⟩)

/-! ## Schemas of a description -/

/-- What a description says of types: the names of its components, and the schemas of the components
and of the operations. -/
structure Outline where
  names : List String
  schemas : List Schema

namespace Outline

/-- Every reference is the name of a component. -/
def Closed (o : Outline) : Prop := ∀ s ∈ o.schemas, s.references ⊆ o.names

def references (o : Outline) : List String := o.schemas.flatMap (·.references)

theorem closed_iff (o : Outline) : o.Closed ↔ o.references ⊆ o.names := by
  constructor
  · intro h raw hraw
    obtain ⟨s, hs, hraw⟩ := List.mem_flatMap.1 hraw
    exact h s hs hraw
  · intro h s hs raw hraw
    exact h (List.mem_flatMap.2 ⟨s, hs, hraw⟩)

end Outline

/-- The outline of a description, as it is read when the module is built. -/
def outline (description : Value) (options : Options) : Except Fault Outline := do
  let components ← Description.components (← Description.shapes description)
  let declared := (declareAll components components).run.run (.forComponents components)
  let parsed := (Operation.parseAll description options).run.run declared.2.diagnostics
  let operations ← parsed.1
  return ⟨components.map (·.1), components.map (·.2) ++ operations.flatMap (·.schemas)⟩

/-- The annotations of the declarations, the arguments, the branches and the results. -/
def Content.annotations (content : Content) : List String :=
  content.declarations.flatMap (·.hints) ++
    content.classes.flatMap (·.methods.flatMap (·.hints))

namespace Run

variable {description : Value} {options : Options} {content : Content}
  (run : Run description options content)

def outline : Outline :=
  ⟨run.components.map (·.1), run.components.map (·.2) ++ run.operations.flatMap (·.schemas)⟩

theorem outline_eq : Module.outline description options = .ok run.outline := by
  obtain ⟨shapes, hshapes, hcomponents⟩ := of_bind_eq_ok run.components_eq
  have hdeclared : (declareAll run.components run.components).run.run
      (.forComponents run.components) = (.ok (), run.declared) := run.declared_eq
  simp only [Module.outline, hshapes, hcomponents, hdeclared, run.operations_eq, bind, Except.bind]
  rfl

theorem mem_operations {g : Group} (hg : g ∈ run.groups) {op : Operation}
    (hop : op ∈ g.operations) : op ∈ run.operations := by
  have hgrouped := Group.grouped_ofOperations run.operations run.declared.registry
  rw [hgrouped.operations g hg] at hop
  exact (List.mem_filter.1 hop).1

theorem fit_start (choices : List Value) : run.start.Fit run.components choices where
  registry := Name.Registry.extends_resolveAll _ _
  hints _ hx := absurd hx List.not_mem_nil

/-- What is settled in the final draft is a type of the language, a constant or a declaration, or
stands in the literal of a choice. -/
theorem of_settles {x : String} (h : run.final.draft.Settles run.components choices x) :
    x ∈ builtinTypes ∨ x ∈ Value.constants ∨ x ∈ content.declarations.map (·.name) ∨
      ∃ v ∈ choices, v.native = false ∧ x ∈ Lexis.identifiers v.literal := by
  cases h with
  | builtin hx => exact .inl hx
  | constant hx => exact .inr (.inl hx)
  | component hraw hx =>
    refine .inr (.inr (.inl ((run.mem_declarations_iff x).2 ?_)))
    obtain ⟨name, hname, hsome⟩ := run.declared_component hraw
    obtain rfl : x = name :=
      Option.some.inj (hx.symm.trans (run.growth_final.registry.assigned hname))
    obtain ⟨declaration, hfound⟩ := Option.isSome_iff_exists.1 hsome
    exact Option.isSome_of_eq_some (run.growth_final.kept hfound)
  | declared hx => exact .inr (.inr (.inl ((run.mem_declarations_iff x).2 hx)))
  | choice hv hnative hx => exact .inr (.inr (.inr ⟨_, hv, hnative, hx⟩))

/-- Where all references are names of components, every annotation of the content is settled in the
final draft. -/
theorem spells_annotations (hclosed : run.outline.Closed) {hint : String}
    (h : hint ∈ content.annotations) :
    run.final.draft.Spells run.components (run.outline.schemas.flatMap (·.choices)) hint := by
  have hcovered : ∀ s ∈ run.outline.schemas,
      s.Covered run.components (run.outline.schemas.flatMap (·.choices)) := fun s hs ↦
    ⟨hclosed s hs, fun v hv ↦ List.mem_flatMap.2 ⟨s, hs, hv⟩⟩
  have hcomponents : ∀ component ∈ run.components,
      component.2.Covered run.components (run.outline.schemas.flatMap (·.choices)) :=
    fun component hcomponent ↦
      hcovered _ (List.mem_append_left _ (List.mem_map_of_mem hcomponent))
  have hgroups : ∀ g ∈ run.groups, ∀ op ∈ g.operations, ∀ s ∈ op.schemas,
      s.Covered run.setting.components (run.outline.schemas.flatMap (·.choices)) :=
    fun g hg op hop s hs ↦ hcovered s (List.mem_append_right _
      (List.mem_flatMap.2 ⟨op, run.mem_operations hg hop, hs⟩))
  obtain ⟨hdeclared, -, -⟩ :=
    (ensures_declareAll (run.fit_start _) hcomponents).of_exec run.exec_declareAll
  have hregistry := (sound_ofOperations run.operations run.aging_declared.sound.registry).2
  have hemission : run.emission.Fit run.components
      (run.outline.schemas.flatMap (·.choices)) := hdeclared.ofRegistry hregistry run.diagnostics
  obtain ⟨hfinal, -, hclasses⟩ :=
    (ensures_emitClasses hgroups hemission).of_exec run.exec_emitClasses
  rcases List.mem_append.1 h with h | h
  · obtain ⟨x, hx, hhint⟩ := List.mem_flatMap.1 h
    rw [run.declarations_eq] at hx
    exact hfinal.hints x (Declarations.mem_of_mem_ordered hx) hint hhint
  · obtain ⟨c, hc, h⟩ := List.mem_flatMap.1 h
    obtain ⟨m, hm, hhint⟩ := List.mem_flatMap.1 h
    exact hclasses c hc m hm hint hhint

end Run

/-- When a content is built and every reference of a schema is the name of a component, each
identifier in an annotation of the content is a type of the language, a constant or the name of a
declaration, or it stands in the literal of a choice that is not native. -/
theorem annotations_closed {description : Value} {options : Options} {content : Content}
    (h : build description options = .ok content) :
    ∃ o, outline description options = .ok o ∧ (o.Closed →
      ∀ hint ∈ content.annotations, ∀ x ∈ Lexis.identifiers hint,
        x ∈ builtinTypes ∨ x ∈ Value.constants ∨ x ∈ content.declarations.map (·.name) ∨
          ∃ s ∈ o.schemas, ∃ v ∈ s.choices, v.native = false ∧
            x ∈ Lexis.identifiers v.literal) := by
  obtain ⟨run⟩ := exists_run h
  refine ⟨run.outline, run.outline_eq, fun hclosed hint hhint x hx ↦ ?_⟩
  refine (run.of_settles ((run.spells_annotations hclosed hhint).fit x hx)).imp_right
    (Or.imp_right (Or.imp_right ?_))
  rintro ⟨v, hv, hnative, hx⟩
  obtain ⟨s, hs, hv⟩ := List.mem_flatMap.1 hv
  exact ⟨s, hs, v, hv, hnative, hx⟩

/-- One operation that returns a list of the only component. -/
def petList : Value :=
  .map [
    ("components", .map [("schemas", .map [
      ("Pet", .map [("type", "object"), ("properties", .map [
        ("kind", .map [("enum", .list ["cat", "dog"])])])])])]),
    ("paths", .map [("/pets", .map [("get", .map [
      ("operationId", "pets"),
      ("tags", .list ["pets"]),
      ("responses", .map [("200", .map [("content", .map [
        ("application/json", .map [("schema", .map [
          ("type", "array"), ("items", referenceTo "Pet")])])])])])])])])]

theorem annotations_petList :
    ∃ content o, build petList {} = .ok content ∧ outline petList {} = .ok o ∧ o.Closed ∧
      content.annotations = ["Literal['cat', 'dog']", "list[Pet]", "list[Pet]"] ∧
      ∀ hint ∈ content.annotations, ∀ x ∈ Lexis.identifiers hint,
        x ∈ builtinTypes ∨ x ∈ Value.constants ∨ x ∈ content.declarations.map (·.name) ∨
          ∃ s ∈ o.schemas, ∃ v ∈ s.choices, v.native = false ∧
            x ∈ Lexis.identifiers v.literal := by
  have hannotations : (build petList {}).toOption.map (·.annotations) =
      some ["Literal['cat', 'dog']", "list[Pet]", "list[Pet]"] := by decide +kernel
  have houtline : (outline petList {}).toOption.map (fun o ↦ (o.names, o.references)) =
      some (["Pet"], ["Pet"]) := by decide +kernel
  obtain ⟨content, hbuild, hcontent⟩ := exists_of_toOption_map hannotations
  obtain ⟨o, ho, hparts⟩ := exists_of_toOption_map houtline
  obtain ⟨hnames, hreferences⟩ := Prod.mk.inj hparts
  have hclosed : o.Closed := by
    rw [Outline.closed_iff, hnames, hreferences]
    exact List.Subset.refl _
  obtain ⟨o', ho', hidentifiers⟩ := annotations_closed hbuild
  obtain rfl : o = o' := Except.ok.inj (ho.symm.trans ho')
  exact ⟨content, o, hbuild, ho, hclosed, hcontent, hidentifiers hclosed⟩

/-- Two components whose values are restricted to a truth value and to a date. -/
def restrictedScalars : Value := describing [
  ("Flag", .map [("type", "boolean"), ("enum", .list [.bool true])]),
  ("Day", .map [("type", "string"), ("enum", .list [.date ⟨2020, 1, 1⟩])])]

/-- A truth value and a date bring in names that are neither types of the language nor declared. -/
theorem annotations_restrictedScalars :
    ∃ content o, build restrictedScalars {} = .ok content ∧
      outline restrictedScalars {} = .ok o ∧ o.Closed ∧
      ∀ x ∈ ["True", "datetime"], (∃ hint ∈ content.annotations, x ∈ Lexis.identifiers hint) ∧
        x ∉ builtinTypes ∧ x ∉ content.declarations.map (·.name) := by
  have hparts : (build restrictedScalars {}).toOption.map
      (fun content ↦ (content.annotations, content.declarations.map (·.name))) =
      some (["Literal[True]", "Literal[datetime.date(2020, 1, 1)]"], ["Flag", "Day"]) := by
    decide +kernel
  have houtline : (outline restrictedScalars {}).toOption.map (·.references) = some [] := by
    decide +kernel
  obtain ⟨content, hbuild, hcontent⟩ := exists_of_toOption_map hparts
  obtain ⟨hannotations, hnames⟩ := Prod.mk.inj hcontent
  obtain ⟨o, ho, hreferences⟩ := exists_of_toOption_map houtline
  have hclosed : o.Closed := by
    rw [Outline.closed_iff, hreferences]
    exact List.nil_subset _
  refine ⟨content, o, hbuild, ho, hclosed, ?_⟩
  rw [hannotations, hnames]
  decide +kernel

end ApiClient.Module

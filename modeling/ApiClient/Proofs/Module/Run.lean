import ApiClient.Module.Content
import ApiClient.Proofs.Emission.Method

/-!
# Runs of the builder

A content that was built has a run behind it: the components were declared, the operations read and
grouped, and the classes emitted one after the other. Each operation was either emitted or skipped.
-/

namespace ApiClient.Module

open Work

/-- The stages by which a content was built. -/
structure Run (description : Value) (options : Options) (content : Content) where
  components : Components
  /-- The draft once the components are declared. -/
  declared : Draft
  operations : List Operation
  diagnostics : List Diagnostic
  final : Emission
  components_eq :
    (do Description.components (← Description.shapes description)) = .ok components
  declared_eq : exec (declareAll components components)
    { Draft.empty with registry := Name.Registry.forModule.resolveAll (components.map (·.1)) } =
      (.ok (), declared)
  operations_eq : (Operation.parseAll description options).run.run declared.diagnostics =
    (.ok operations, diagnostics)
  final_eq : exec
    (emitClasses ⟨components, options⟩ (Group.ofOperations operations declared.registry).1)
    { draft := { declared with
        registry := (Group.ofOperations operations declared.registry).2, diagnostics }
      operationIds := []
      methods := .forMethods } = (.ok content.classes, final)
  declarations_eq : content.declarations = final.draft.declarations.ordered
  diagnostics_eq : content.diagnostics = final.draft.diagnostics

namespace Run

variable {description : Value} {options : Options} {content : Content}

def setting (run : Run description options content) : Emission.Setting := ⟨run.components, options⟩

/-- The classes with their operations. -/
def groups (run : Run description options content) : List Group :=
  (Group.ofOperations run.operations run.declared.registry).1

end Run

theorem of_bind_eq_ok {α β : Type} {x : Except Fault α} {f : α → Except Fault β} {b : β}
    (h : x >>= f = .ok b) : ∃ a, x = .ok a ∧ f a = .ok b := by
  cases x with
  | error fault => cases h
  | ok a => exact ⟨a, rfl, h⟩

theorem exists_of_map_eq_ok {ε α β : Type} {x : Except ε α} {f : α → β} {b : β}
    (h : x.map f = .ok b) : ∃ a, x = .ok a ∧ f a = b := by
  cases x with
  | error e => cases h
  | ok a => exact ⟨a, rfl, Except.ok.inj h⟩

theorem forall₂_of_mapM {α β : Type} {f : α → Except Fault β} {as : List α} {bs : List β}
    (h : as.mapM f = .ok bs) : List.Forall₂ (fun a b ↦ f a = .ok b) as bs := by
  induction as generalizing bs with
  | nil =>
    cases h
    exact .nil
  | cons a as ih =>
    rw [List.mapM_cons] at h
    obtain ⟨b, hb, h⟩ := of_bind_eq_ok h
    obtain ⟨rest, hrest, h⟩ := of_bind_eq_ok h
    cases h
    exact .cons hb (ih hrest)

theorem exists_left_of_mem {α β : Type} {R : α → β → Prop} {as : List α} {bs : List β}
    (h : List.Forall₂ R as bs) {b : β} (hb : b ∈ bs) : ∃ a ∈ as, R a b := by
  induction h with
  | nil => cases hb
  | cons hfirst _ ih =>
    rcases List.mem_cons.1 hb with rfl | hb
    · exact ⟨_, List.mem_cons_self, hfirst⟩
    · obtain ⟨a, ha, hrel⟩ := ih hb
      exact ⟨a, List.mem_cons_of_mem _ ha, hrel⟩

/-- A component is read from an entry: it has the name and the shape. -/
def ReadsAs (e : Value × Value) (c : String × Schema) : Prop :=
  e.1 = .text c.1 ∧ Schema.parse e.2 = .ok c.2

theorem forall₂_of_components {entries : List (Value × Value)} {shapes : List (Value × Schema)}
    {components : Components} (hshapes : Description.parseSchemas entries = .ok shapes)
    (hcomponents : Description.components shapes = .ok components) :
    List.Forall₂ ReadsAs entries components := by
  induction entries generalizing shapes components with
  | nil =>
    cases hshapes
    cases hcomponents
    exact .nil
  | cons e entries ih =>
    obtain ⟨key, v⟩ := e
    obtain ⟨s, hs, hshapes⟩ := of_bind_eq_ok hshapes
    obtain ⟨rest, hrest, hshapes⟩ := of_bind_eq_ok hshapes
    cases hshapes
    unfold Description.components at hcomponents
    rw [List.mapM_cons] at hcomponents
    obtain ⟨c, hc, hcomponents⟩ := of_bind_eq_ok hcomponents
    obtain ⟨others, hothers, hcomponents⟩ := of_bind_eq_ok hcomponents
    cases hcomponents
    refine .cons ?_ (ih hrest hothers)
    cases key with
    | text raw =>
      cases hc
      exact ⟨rfl, hs⟩
    | _ => cases hc

/-- The components are read from the entries of the component schemas, one from each. -/
theorem exists_entries_of_components {description : Value} {components : Components}
    (h : (do Description.components (← Description.shapes description)) = .ok components) :
    ∃ named entries, Description.schemas description = .ok named ∧ named.entries = .ok entries ∧
      List.Forall₂ ReadsAs entries components := by
  obtain ⟨shapes, hshapes, hcomponents⟩ := of_bind_eq_ok h
  unfold Description.shapes at hshapes
  obtain ⟨named, hnamed, hshapes⟩ := of_bind_eq_ok hshapes
  obtain ⟨entries, hentries, hshapes⟩ := of_bind_eq_ok hshapes
  exact ⟨named, entries, hnamed, hentries, forall₂_of_components hshapes hcomponents⟩

/-- A result that can be computed is there. -/
theorem exists_of_toOption_map {α β : Type} {x : Except Fault α} {f : α → β} {b : β}
    (h : x.toOption.map f = some b) : ∃ a, x = .ok a ∧ f a = b := by
  cases x with
  | error fault => cases h
  | ok a => exact ⟨a, rfl, Option.some.inj h⟩

theorem exists_run {description : Value} {options : Options} {content : Content}
    (h : build description options = .ok content) :
    Nonempty (Run description options content) := by
  unfold build at h
  obtain ⟨shapes, hshapes, hrest⟩ := of_bind_eq_ok h
  obtain ⟨components, hcomponents, hrest⟩ := of_bind_eq_ok hrest
  rcases hdeclared : (declareAll components components).run.run
    { Draft.empty with registry := Name.Registry.forModule.resolveAll (components.map (·.1)) }
    with ⟨declaredResult, declared⟩
  simp only [hdeclared] at hrest
  obtain ⟨_, hresult, hrest⟩ := of_bind_eq_ok hrest
  rcases hoperations : (Operation.parseAll description options).run.run declared.diagnostics
    with ⟨parsed, diagnostics⟩
  simp only [hoperations] at hrest
  obtain ⟨operations, hparsed, hrest⟩ := of_bind_eq_ok hrest
  rcases hfinal : (emitClasses ⟨components, options⟩
    (Group.ofOperations operations declared.registry).1).run.run
    { draft := { declared with
        registry := (Group.ofOperations operations declared.registry).2, diagnostics }
      operationIds := []
      methods := .forMethods } with ⟨emitted, final⟩
  simp only [hfinal] at hrest
  obtain ⟨classes, hclasses, hrest⟩ := of_bind_eq_ok hrest
  obtain ⟨title, -, hrest⟩ := of_bind_eq_ok hrest
  obtain ⟨version, -, hrest⟩ := of_bind_eq_ok hrest
  obtain rfl := Except.ok.inj hrest
  subst hresult hparsed hclasses
  refine ⟨components, declared, operations, diagnostics, final, ?_, hdeclared, hoperations,
    hfinal, rfl, rfl⟩
  rw [hshapes]
  exact hcomponents

/-- An operation is emitted, or skipped for a recursive schema. -/
theorem emitOrSkip_cases {setting : Emission.Setting} {op : Operation} {e e' : Emission}
    {methods : List Method} (h : exec (emitOrSkip setting op) e = (.ok methods, e')) :
    (∃ emitted, exec (Emission.emit setting op) e = (.ok emitted, e') ∧
      methods = emitted.map escapeMethodDoc) ∨
    ∃ chain e₁, exec (Emission.emit setting op) e = (.error (.recursiveSchema chain), e₁) ∧
      methods = [] ∧
      e' = { e₁ with draft := { e₁.draft with diagnostics := e₁.draft.diagnostics ++
        [.error op.location ("operation skipped: " ++ Fault.recursionText chain)] } } := by
  unfold emitOrSkip at h
  rw [exec_catch, exec_map] at h
  rcases hemit : exec (Emission.emit setting op) e with ⟨fault | emitted, e₁⟩
  · simp only [hemit, Except.map] at h
    cases fault with
    | recursiveSchema chain =>
      rw [exec_bind_of_ok (Emission.exec_report _ _)] at h
      obtain ⟨rfl, rfl⟩ := exec_pure_eq_ok.1 h
      exact .inr ⟨chain, e₁, rfl, rfl, rfl⟩
    | _ => simp [exec_throw] at h
  · simp only [hemit, Except.map, Prod.mk.injEq, Except.ok.injEq] at h
    obtain ⟨rfl, rfl⟩ := h
    exact .inl ⟨emitted, rfl, rfl⟩

/-- The first class has the name of its group and the methods that are emitted for its operations,
from no method names, and the other classes follow. -/
theorem of_emitClasses_cons {setting : Emission.Setting} {g : Group} {groups : List Group}
    {e e' : Emission} {classes : List ApiClass}
    (h : exec (emitClasses setting (g :: groups)) e = (.ok classes, e')) :
    ∃ methods rest e₁, classes = ⟨g.name, methods⟩ :: rest ∧
      exec (emitAll setting g.operations) { e with methods := .forMethods } = (.ok methods, e₁) ∧
      exec (emitClasses setting groups) e₁ = (.ok rest, e') := by
  obtain ⟨c, e₁, hclass, h⟩ := of_exec_bind h
  obtain ⟨rest, e₂, hrest, h⟩ := of_exec_bind h
  obtain ⟨rfl, rfl⟩ := exec_pure_eq_ok.1 h
  unfold emitClass at hclass
  rw [exec_modify_bind] at hclass
  obtain ⟨methods, e₃, hmethods, hclass⟩ := of_exec_bind hclass
  obtain ⟨rfl, rfl⟩ := exec_pure_eq_ok.1 hclass
  exact ⟨methods, rest, e₁, rfl, hmethods, hrest⟩

end ApiClient.Module

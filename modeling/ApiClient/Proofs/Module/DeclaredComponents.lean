import ApiClient.Proofs.Draft.Remarks
import ApiClient.Proofs.Module.RawNames

/-!
# Declared components

A component is declared as a class if it is a record, and as an alias otherwise. One in which a
chain of references returns to itself is degraded: an error is reported at it, and it becomes an
open alias whatever its own shape is. So once all components are declared, a record has an alias in
the place of its class just if an error was reported at it.
-/

namespace ApiClient

open Work Draft Drafting

variable {components : Components}

namespace Components

/-- The type of a record that is no alias has a class of its own. -/
theorem IsRoot.hoists {raw : String} {s : Schema} (h : components.IsRoot raw)
    (hknown : components.lookup raw = some s) (identify : String → String) :
    hoists (TypeExpr.ofSchema identify s).collapse = true ∧
      (components.isRecord [] (TypeExpr.ofSchema identify s).collapse).outcome = .ok true := by
  obtain ⟨s', hknown', hnamed, hrecord⟩ := of_recordBase_self h
  obtain rfl : s = s' := Option.some.inj (hknown.symm.trans hknown')
  have hrecord := isRecord_of_subset (List.nil_subset _) hrecord
  rw [← relabel_shape identify s, isRecord_relabel]
  refine ⟨?_, hrecord⟩
  cases hshape : shape s with
  | record | intersection =>
    rw [TypeExpr.relabel]
    rfl
  | named identifier target => exact absurd hshape (hnamed identifier target)
  | _ =>
    simp only [hshape, isRecord] at hrecord
    cases hrecord

end Components

namespace Drafting

theorem progress_componentType (raw : String) (s : Schema) :
    Respects (Progress components) (componentType components raw s) := by
  unfold componentType
  apply (progress_follow _).bind
  intro _
  exact (progress_typeOf s).bind fun _ ↦ Respects.pure _

theorem progress_hasClass (e : TypeExpr) :
    Respects (Progress components) (hasClass components e) := by
  unfold hasClass
  split
  · exact progress_follow _
  · exact Respects.pure _

/-- A component that has no class is no record, unless it is an alias of one. -/
theorem not_isRoot_of_hasClass {raw : String} {s : Schema} (hknown : components.lookup raw = some s)
    {identify : String → String} {d d' : Draft}
    (h : exec (hasClass components (TypeExpr.ofSchema identify s).collapse) d = (.ok false, d')) :
    ¬ components.IsRoot raw := by
  intro hroot
  obtain ⟨hhoists, hrecord⟩ := hroot.hoists hknown identify
  unfold hasClass at h
  rw [if_pos hhoists] at h
  have hfalse := hrecord.symm.trans (outcome_of_follow h)
  cases hfalse

/-- A component is declared once its type is rendered: by a class that stands under its name then,
or by an alias. Until then, and if it fails, the draft only grows. -/
theorem declareComponent_cases (raw : String) (s : Schema) (name : String) (d : Draft) :
    ∃ d₁, Progress components d d₁ ∧
      ((∃ fault, exec (declareComponent components raw s name) d = (.error fault, d₁)) ∨
      (∃ x, exec (declareComponent components raw s name) d = (.ok x, d₁) ∧
        d₁.declarations.find? name = some x) ∨
      ((components.lookup raw = some s → ¬ components.IsRoot raw) ∧ ∃ hint,
        exec (declareComponent components raw s name) d = (.ok (.synonym name hint),
          { d₁ with declarations := d₁.declarations.put (.synonym name hint) }))) := by
  unfold declareComponent
  rcases hd₁ : exec (componentType components raw s) d with ⟨fault | e, d₁⟩
  · exact ⟨d₁, (progress_componentType raw s).of_exec hd₁,
      .inl ⟨fault, exec_bind_of_error hd₁ _⟩⟩
  have hprogress₁ : Progress components d d₁ := (progress_componentType raw s).of_exec hd₁
  rw [exec_bind_of_ok hd₁]
  rcases hd₂ : exec (hasClass components e) d₁ with ⟨fault | isClass, d₂⟩
  · exact ⟨d₂, IsTrans.trans _ _ _ hprogress₁ ((progress_hasClass e).of_exec hd₂),
      .inl ⟨fault, exec_bind_of_error hd₂ _⟩⟩
  have hprogress₂ := IsTrans.trans _ _ _ hprogress₁ ((progress_hasClass e).of_exec hd₂)
  rw [exec_bind_of_ok hd₂]
  rcases hd₃ : exec (render components e raw) d₂ with ⟨fault | hint, d₃⟩
  · exact ⟨d₃, IsTrans.trans _ _ _ hprogress₂ ((progress_render e raw).of_exec hd₃),
      .inl ⟨fault, exec_bind_of_error hd₃ _⟩⟩
  refine ⟨d₃, IsTrans.trans _ _ _ hprogress₂ ((progress_render e raw).of_exec hd₃), ?_⟩
  rw [exec_bind_of_ok hd₃]
  cases isClass with
  | true =>
    rw [if_pos rfl, exec_get_bind]
    cases hfound : d₃.declarations.find? name with
    | none => exact .inl ⟨.missing name, rfl⟩
    | some x => exact .inr (.inl ⟨x, rfl, rfl⟩)
  | false =>
    refine .inr (.inr ⟨fun hknown ↦ ?_, hint, rfl⟩)
    obtain ⟨identify, base, rfl, -⟩ := exists_type_of_componentType hd₁
    exact not_isRoot_of_hasClass hknown hd₂

/-- A component is declared by a class, by an alias if it is no record, or by an open alias with an
error that says so. -/
theorem declareSchema_cases {raw : String} {s : Schema} {d d' : Draft} {x : Declaration}
    (hsound : d.Sound) (h : exec (declareSchema components raw s) d = (.ok x, d')) :
    ∃ d₁ name, Growth components Rendering.All d d₁ ∧ Remarks d d₁ ∧
      d₁.registry.identifier? raw = some name ∧
      ((d' = d₁ ∧ (d₁.declarations.find? name).isSome) ∨
      ((components.lookup raw = some s → ¬ components.IsRoot raw) ∧ ∃ hint,
        d' = { d₁ with declarations := d₁.declarations.put (.synonym name hint) }) ∨
      ∃ chain, d' = { d₁ with
        diagnostics := d₁.diagnostics ++
          [.error ("schema " ++ raw) (Fault.recursionText chain)]
        declarations := d₁.declarations.put (.synonym name "Any") }) := by
  unfold declareSchema at h
  rw [exec_bind_of_ok (exec_identify raw d), exec_catch] at h
  have hname := Name.Registry.identifier?_resolve_self d.registry raw
  have hidentified : Progress components d _ :=
    (progress_identify raw).of_exec (exec_identify raw d)
  have hgrown := hidentified.1 hsound
  obtain ⟨d₁, ⟨hgrows, hremarks⟩, hcases⟩ : ∃ d₁, Progress components _ d₁ ∧ _ :=
    declareComponent_cases raw s (d.registry.resolve raw).1
      { d with registry := (d.registry.resolve raw).2 }
  have hgrown₁ := hgrows hgrown.sound
  refine ⟨d₁, (d.registry.resolve raw).1, hgrown.trans hgrown₁,
    IsTrans.trans _ _ _ hidentified.2 hremarks, hgrown₁.registry.assigned hname, ?_⟩
  rcases hcases with ⟨fault, hexec⟩ | ⟨y, hexec, hfound⟩ | ⟨hnoRoot, hint, hexec⟩
  · rw [hexec] at h
    cases fault with
    | recursiveSchema chain =>
      cases h
      exact .inr (.inr ⟨chain, rfl⟩)
    | _ => cases h
  · rw [hexec] at h
    cases h
    exact .inl ⟨rfl, by rw [hfound]; rfl⟩
  · rw [hexec] at h
    cases h
    exact .inr (.inl ⟨hnoRoot, hint, rfl⟩)

end Drafting

/-! ## Declaring all components -/

namespace Draft

/-- The draft in which the names of components are taken and nothing is declared. -/
def forComponents (components : Components) : Draft :=
  { Draft.empty with registry := Name.Registry.forModule.resolveAll (components.map (·.1)) }

theorem sound_forComponents (components : Components) : (forComponents components).Sound where
  registry := (Name.Registry.sound_new _ _).resolveAll _
  names := List.nodup_nil

/-- The raw name has an identifier, under which something is declared. -/
def Declared (d : Draft) (raw : String) : Prop :=
  ∃ name, d.registry.identifier? raw = some name ∧ (d.declarations.find? name).isSome

/-- An alias is declared under the name. -/
def Aliased (d : Draft) (name : String) : Prop :=
  ∃ text, d.declarations.find? name = some (.synonym name text)

/-- What stands under a name is a class or an alias. -/
theorem exists_class_iff {d : Draft} {name : String} (h : (d.declarations.find? name).isSome) :
    (∃ c : RecordClass, d.declarations.find? name = some (.record c)) ↔ ¬ d.Aliased name := by
  obtain ⟨x, hx⟩ := Option.isSome_iff_exists.1 h
  unfold Aliased
  rw [hx]
  cases x with
  | synonym other text =>
    have hname : other = name := Declarations.name_of_find? hx
    subst hname
    refine iff_of_false ?_ fun hno ↦ hno ⟨text, rfl⟩
    rintro ⟨c, ⟨⟩⟩
  | record c =>
    refine iff_of_true ⟨c, rfl⟩ ?_
    rintro ⟨text, ⟨⟩⟩

/-- What is declared stays declared, perhaps as an alias. -/
theorem Aging.declared {S : Rendering → Prop} {d d' : Draft} (h : Aging components S d d')
    {raw : String} (hraw : d.Declared raw) : d'.Declared raw := by
  obtain ⟨name, hname, hsome⟩ := hraw
  obtain ⟨x, hx⟩ := Option.isSome_iff_exists.1 hsome
  refine ⟨name, h.registry.assigned hname, ?_⟩
  rcases h.kept hx with hkept | ⟨hint, hkept⟩ <;> rw [hkept] <;> rfl

/-- No alias is declared and none is replaced while types are rendered. -/
theorem Growth.aliased_iff {S : Rendering → Prop} {d d' : Draft} (h : Growth components S d d')
    (name : String) : d'.Aliased name ↔ d.Aliased name := by
  refine ⟨fun ⟨text, htext⟩ ↦ ?_, fun ⟨text, htext⟩ ↦ ⟨text, h.kept htext⟩⟩
  cases hbefore : d.declarations.find? name with
  | none =>
    obtain ⟨r, c, -, -, hrecord, -⟩ := h.new hbefore htext
    cases hrecord
  | some x => exact ⟨text, hbefore.trans ((h.kept hbefore).symm.trans htext)⟩

theorem aliased_put_synonym {d : Draft} (name text other : String) (diagnostics : List Diagnostic) :
    Aliased { d with
      diagnostics, declarations := d.declarations.put (.synonym name text) } other ↔
      other = name ∨ d.Aliased other := by
  unfold Aliased
  rw [Declarations.find?_put, Declaration.name]
  by_cases hsame : name = other
  · subst hsame
    rw [if_pos rfl]
    exact ⟨fun _ ↦ .inl rfl, fun _ ↦ ⟨text, rfl⟩⟩
  · rw [if_neg hsame]
    exact ⟨.inr, fun h ↦ h.resolve_left (Ne.symm hsame)⟩

/-- An error was reported at a component, in which a chain of references returns to itself. -/
def Degraded (diagnostics : List Diagnostic) (raw : String) : Prop :=
  ∃ chain, Diagnostic.error ("schema " ++ raw) (Fault.recursionText chain) ∈ diagnostics

theorem Remarks.degraded_iff {d d' : Draft} (h : Remarks d d') (raw : String) :
    Degraded d'.diagnostics raw ↔ Degraded d.diagnostics raw :=
  exists_congr fun _ ↦ Diagnostic.Appends.mem_iff h fun hincidental ↦ hincidental.minor rfl

theorem degraded_report (diagnostics : List Diagnostic) (raw other : String)
    (chain : List String) :
    Degraded (diagnostics ++ [.error ("schema " ++ raw) (Fault.recursionText chain)]) other ↔
      other = raw ∨ Degraded diagnostics other := by
  unfold Degraded
  simp only [List.mem_append, List.mem_singleton, exists_or]
  rw [or_comm]
  apply or_congr_left
  constructor
  · rintro ⟨chain', hsame⟩
    injection hsame with _ hlocation
    injection hlocation with hlocation
    exact (String.append_right_inj _).1 hlocation
  · rintro rfl
    exact ⟨chain, rfl⟩

/-- Known names stay known, and a record has an alias in the place of its class just if it was
degraded. -/
structure Accounted (components : Components) (known : Name.Registry) (d : Draft) : Prop where
  sound : d.Sound
  registry : known.Extends d.registry
  aliased_iff : ∀ {raw name}, components.IsRoot raw → known.identifier? raw = some name →
    (d.Aliased name ↔ Degraded d.diagnostics raw)

theorem accounted_forComponents (components : Components) :
    Accounted components (forComponents components).registry (forComponents components) where
  sound := sound_forComponents components
  registry := .refl _
  aliased_iff _ _ := by
    constructor
    · rintro ⟨text, htext⟩
      cases htext
    · rintro ⟨chain, hchain⟩
      cases hchain

theorem find?_put_synonym (d : Draft) (name text : String) :
    Declarations.find? (d.declarations.put (.synonym name text)) name =
      some (.synonym name text) := by
  rw [Declarations.find?_put, Declaration.name, if_pos rfl]

/-- A component that is declared is there. -/
theorem declared_declareSchema {raw : String} {s : Schema} {d d' : Draft} {x : Declaration}
    (hsound : d.Sound) (h : exec (declareSchema components raw s) d = (.ok x, d')) :
    d'.Declared raw := by
  obtain ⟨d₁, name, -, -, hname, hcases⟩ := declareSchema_cases hsound h
  rcases hcases with ⟨rfl, hsome⟩ | ⟨-, hint, rfl⟩ | ⟨chain, rfl⟩
  · exact ⟨name, hname, hsome⟩
  · exact ⟨name, hname, by rw [find?_put_synonym]; rfl⟩
  · exact ⟨name, hname, by rw [find?_put_synonym]; rfl⟩

variable {known : Name.Registry}

/-- Where the class of a component is declared, or an alias of one that is no record, no record is
degraded. Where an error is reported at a component it becomes an alias. -/
theorem Accounted.declareSchema {raw : String} {s : Schema} {d d' : Draft} {x : Declaration}
    (h : Accounted components known d) (hknown : components.lookup raw = some s)
    (hexec : exec (Drafting.declareSchema components raw s) d = (.ok x, d')) :
    Accounted components known d' := by
  obtain ⟨d₁, name, hgrown, hremarks, hname, hcases⟩ := declareSchema_cases h.sound hexec
  have hregistry := h.registry.trans hgrown.registry
  have haliased : ∀ {root other}, components.IsRoot root → known.identifier? root = some other →
      (d₁.Aliased other ↔ Degraded d₁.diagnostics root) := by
    intro root other hroot hother
    rw [hgrown.aliased_iff, hremarks.degraded_iff]
    exact h.aliased_iff hroot hother
  have hnames : ∀ {root other}, known.identifier? root = some other →
      (other = name ↔ root = raw) := by
    intro root other hother
    have hother := hregistry.assigned hother
    constructor
    · rintro rfl
      exact hgrown.sound.registry.injective hother hname
    · rintro rfl
      exact Option.some.inj (hother.symm.trans hname)
  rcases hcases with ⟨rfl, -⟩ | ⟨hnoRoot, hint, rfl⟩ | ⟨chain, rfl⟩
  · exact ⟨hgrown.sound, hregistry, haliased⟩
  · refine ⟨⟨hgrown.sound.registry, Declarations.nodup_name_put hgrown.sound.names _⟩,
      hregistry, fun {root other} hroot hother ↦ ?_⟩
    have hdifferent : other ≠ name := by
      intro hsame
      obtain rfl := (hnames hother).1 hsame
      exact hnoRoot hknown hroot
    rw [aliased_put_synonym, ← haliased hroot hother]
    exact or_iff_right hdifferent
  · refine ⟨⟨hgrown.sound.registry, Declarations.nodup_name_put hgrown.sound.names _⟩,
      hregistry, fun {root other} hroot hother ↦ ?_⟩
    rw [aliased_put_synonym, degraded_report, haliased hroot hother, hnames hother]

end Draft

namespace Module

/-- Once all components are declared, each of them has a declaration. -/
theorem declared_declareAll {part : Components} (hpart : part ⊆ components) {d d' : Draft}
    (hsound : d.Sound) (hexec : exec (declareAll components part) d = (.ok (), d')) :
    ∀ raw ∈ part.map (·.1), d'.Declared raw := by
  induction part generalizing d with
  | nil => exact fun raw hraw ↦ absurd hraw List.not_mem_nil
  | cons component rest ih =>
    obtain ⟨raw, s⟩ := component
    obtain ⟨hfirst, hrest⟩ := List.cons_subset.1 hpart
    rw [declareAll] at hexec
    obtain ⟨x, d₁, hdeclared, hexec⟩ := of_exec_bind hexec
    have hhead : Starts id d.registry components (declareSchema components raw s) _ :=
      starts_declareSchema (List.mem_map_of_mem hfirst) s
    have htail : Starts id d₁.registry components (declareAll components rest) _ :=
      starts_declareAll hrest
    have hfirstAging := hhead.aging hsound (.refl _)
    rw [hdeclared] at hfirstAging
    have hrestAging := htail.aging hfirstAging.sound (.refl _)
    rw [hexec] at hrestAging
    exact List.forall_mem_cons.2
      ⟨hrestAging.declared (declared_declareSchema hsound hdeclared),
        ih hrest hfirstAging.sound hexec⟩

/-- Once all components are declared, a record has an alias in the place of its class just if an
error was reported at it. -/
theorem accounted_declareAll (hmap : (components.map (·.1)).Nodup) {known : Name.Registry}
    {part : Components} (hpart : part ⊆ components) {d d' : Draft}
    (h : d.Accounted components known)
    (hexec : exec (declareAll components part) d = (.ok (), d')) :
    d'.Accounted components known := by
  induction part generalizing d with
  | nil =>
    obtain ⟨-, rfl⟩ := exec_pure_eq_ok.1 hexec
    exact h
  | cons component rest ih =>
    obtain ⟨raw, s⟩ := component
    obtain ⟨hfirst, hrest⟩ := List.cons_subset.1 hpart
    rw [declareAll] at hexec
    obtain ⟨x, d₁, hdeclared, hexec⟩ := of_exec_bind hexec
    have haccounted := h.declareSchema (Components.lookup_of_mem hmap hfirst) hdeclared
    exact ih hrest haccounted hexec

/-- Once all components are declared, a record has a declaration, which is an alias just if an error
was reported at it. -/
theorem exists_identifier_of_declareAll (hmap : (components.map (·.1)).Nodup) {d : Draft}
    (h : exec (declareAll components components) (.forComponents components) = (.ok (), d))
    {root : String} (hroot : components.IsRoot root) :
    ∃ name, d.registry.identifier? root = some name ∧ (d.declarations.find? name).isSome ∧
      (d.Aliased name ↔ Degraded d.diagnostics root) := by
  have hsubset := List.Subset.refl components
  have haccounted := accounted_declareAll hmap hsubset (accounted_forComponents components) h
  have hcontains : (Draft.forComponents components).registry.contains root = true := by
    unfold Draft.forComponents
    rw [Name.Registry.contains_resolveAll, List.contains_iff_mem.2 hroot.mem_names, Bool.or_true]
  obtain ⟨name, hname⟩ := Option.isSome_iff_exists.1 hcontains
  have hassigned := haccounted.registry.assigned hname
  obtain ⟨name', hname', hsome⟩ :=
    declared_declareAll hsubset (sound_forComponents components) h root hroot.mem_names
  obtain rfl : name = name' := Option.some.inj (hassigned.symm.trans hname')
  exact ⟨name, hassigned, hsome, haccounted.aliased_iff hroot hname⟩

/-- In a run each component is declared before the operations are read. -/
theorem Run.declared_component {description : Value} {options : Options} {content : Content}
    (run : Run description options content) {raw : String}
    (h : raw ∈ run.components.map (·.1)) : run.declared.Declared raw :=
  declared_declareAll (List.Subset.refl _) run.sound_start run.exec_declareAll raw h

end Module

end ApiClient

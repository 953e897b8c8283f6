import ApiClient.Proofs.Declaration.Order
import ApiClient.Proofs.Module.DeclaredComponents

/-!
# Inheritance between declarations

Each base of a class is the identifier of a record component. The class of a component is derived
from its bases in the description, where no record is derived from itself. The class of an inline
intersection may have the name of a component, if that has a space in it, and then a class can
inherit from itself. In every draft that is reached the bases come first unless one does.
-/

namespace ApiClient

open Work Draft Drafting

variable {components : Components}

/-- A component whose type is a record, and no reference to one, is a root. -/
theorem Rendering.Own.isRoot (hmap : (components.map (·.1)).Nodup) {r : Rendering}
    (h : r.Own components) (hnamed : ∀ identifier target, r.type.collapse ≠ .named identifier target)
    (hrecord : (components.isRecord [] r.type.collapse).outcome = .ok true) :
    components.IsRoot r.raw := by
  obtain ⟨s, identify, base, hs, htype, hwalk⟩ := h
  have hknown := Components.lookup_of_mem hmap hs
  rw [htype, TypeExpr.collapse_collapse, ← Components.relabel_shape] at hnamed hrecord
  have hshape : ∀ identifier target, Components.shape s ≠ .named identifier target := by
    intro identifier target hshape
    rw [hshape, TypeExpr.relabel] at hnamed
    exact hnamed _ _ rfl
  rw [Components.isRecord_relabel] at hrecord
  unfold Components.IsRoot
  rw [Components.recordBase_of_shape List.not_mem_nil hknown hshape] at hwalk ⊢
  cases hown : (components.isRecord ([] ++ [r.raw]) (Components.shape s)).outcome with
  | error chain =>
    rw [hown] at hwalk
    cases hwalk
  | ok isRecord =>
    have hsame := hrecord.symm.trans (Components.isRecord_of_subset (List.nil_subset _) hown)
    rw [← Except.ok.inj hsame]
    rfl

/-- The record that a component is rendered to is derived from its bases. -/
theorem Rendering.Own.derives (hmap : (components.map (·.1)).Nodup) {r : Rendering}
    (h : r.Own components) {members : List TypeExpr} {reference root : String}
    (hshape : r.type.collapse = .intersection members)
    (hrecord : (components.isRecord [] (.intersection members)).outcome = .ok true)
    (hmem : reference ∈ (Contribution.ofMembers members).references)
    (hroot : (components.recordBase [] reference).outcome = .ok (some root)) :
    components.Derives r.raw root := by
  have hisRoot : components.IsRoot r.raw := by
    apply h.isRoot hmap
    · intro identifier target hnamed
      rw [hshape] at hnamed
      cases hnamed
    · rwa [hshape]
  obtain ⟨s, identify, base, hs, htype, -⟩ := h
  have hknown := Components.lookup_of_mem hmap hs
  rw [htype, TypeExpr.collapse_collapse, ← Components.relabel_shape] at hshape
  exact ⟨hisRoot, s, identify, members, reference, hknown, hshape, hmem, hroot⟩

namespace Module

/-! ## Classes and their bases -/

/-- The base is the identifier of a record component, which the component of a raw name is derived
from unless the raw name has a space in it. -/
def HasBase (components : Components) (d : Draft) (raw base : String) : Prop :=
  ∃ root, components.IsRoot root ∧ d.registry.identifier? root = some base ∧
    (components.Derives raw root ∨ ' ' ∈ raw.toList)

/-- All components are declared, and each class has a raw name with its bases. -/
structure Founded (components : Components) (d : Draft) : Prop where
  sound : d.Sound
  declared : ∀ raw ∈ components.map (·.1), d.Declared raw
  based : ∀ {name c}, d.declarations.find? name = some (.record c) →
    ∃ raw, d.registry.identifier? raw = some name ∧ ∀ base ∈ c.bases, HasBase components d raw base

/-- The rendering is that of a component, or its raw name has a space in it. -/
def Located (components : Components) (r : Rendering) : Prop := r.Own components ∨ r.Spaced

theorem closed_located : Rendering.Closed components (Located components) :=
  fun _ _ _ hcall ↦ .inr hcall.spaced

theorem HasBase.extend {d d' : Draft} {raw base : String} (h : HasBase components d raw base)
    (hregistry : d.registry.Extends d'.registry) : HasBase components d' raw base := by
  obtain ⟨root, hroot, hname, hderives⟩ := h
  exact ⟨root, hroot, hregistry.assigned hname, hderives⟩

/-- The bases of a class that a rendering declares are those of its raw name. -/
theorem hasBase_of_declares (hmap : (components.map (·.1)).Nodup) {r : Rendering} {d : Draft}
    (hr : r.Within components (Located components) d) {c : RecordClass}
    (hdeclares : r.Declares components c) :
    ∀ base ∈ c.bases, HasBase components d r.raw base := by
  intro base hbase
  obtain ⟨members, reference, root, hshape, hrecord, hmem, hroot, hname⟩ :=
    hdeclares.exists_root hr.sound hbase
  refine ⟨root, Components.isRoot_of_recordBase hroot, hr.registry.assigned hname, ?_⟩
  rcases hr.member with hown | hspaced
  · exact .inl (hown.derives hmap hshape hrecord hmem hroot)
  · exact .inr hspaced

/-- A draft stays founded while it ages by such renderings. -/
theorem Founded.aging (hmap : (components.map (·.1)).Nodup) {d d' : Draft}
    (h : Founded components d)
    (haging : Aging components (Rendering.Within components (Located components) d') d d') :
    Founded components d' where
  sound := haging.sound
  declared raw hraw := haging.declared (h.declared raw hraw)
  based {name c} hname := by
    rcases haging.new hname with hbefore | ⟨r, hr, hdeclares, hraw⟩
    · obtain ⟨raw, hraw, hbases⟩ := h.based hbefore
      exact ⟨raw, haging.registry.assigned hraw,
        fun base hbase ↦ (hbases base hbase).extend haging.registry⟩
    · exact ⟨r.raw, hraw, hasBase_of_declares hmap hr hdeclares⟩

/-- Names that are taken and remarks that are made do not touch the classes. -/
theorem Founded.resolveAll {d : Draft} (h : Founded components d) (raws : List String)
    (diagnostics : List Diagnostic) :
    Founded components { d with registry := d.registry.resolveAll raws, diagnostics } where
  sound := ⟨h.sound.registry.resolveAll raws, h.sound.names⟩
  declared raw hraw := by
    obtain ⟨name, hname, hsome⟩ := h.declared raw hraw
    exact ⟨name, (Name.Registry.extends_resolveAll _ raws).assigned hname, hsome⟩
  based hname := by
    obtain ⟨raw, hraw, hbases⟩ := h.based hname
    have hextends := Name.Registry.extends_resolveAll d.registry raws
    exact ⟨raw, hextends.assigned hraw, fun base hbase ↦ (hbases base hbase).extend hextends⟩

/-! ## Drafts that are reached -/

/-- The drafts that are reached once all components of a map are declared, by emissions that may
fail on the way. In between, names are taken and remarks are made. -/
inductive Reached (components : Components) : Draft → Prop
  | declared {d} : exec (declareAll components components) (.forComponents components) =
      (.ok (), d) → Reached components d
  | named {d} (raws : List String) (diagnostics : List Diagnostic) : Reached components d →
      Reached components { d with registry := d.registry.resolveAll raws, diagnostics }
  | emitted {setting : Emission.Setting} {op e result e'} : Reached components e.draft →
      setting.components = components → exec (Emission.emit setting op) e = (result, e') →
      Reached components e'.draft

theorem founded_declareAll (hmap : (components.map (·.1)).Nodup) {d : Draft}
    (h : exec (declareAll components components) (.forComponents components) = (.ok (), d)) :
    Founded components d := by
  have hsubset := List.Subset.refl components
  have hsound := sound_forComponents components
  have hstarts : Starts id (Draft.forComponents components).registry components _ _ :=
    starts_declareAll hsubset
  have haging := hstarts.aging_within (s := .forComponents components) closed_located hsound
    (.refl _) fun r hr ↦ .inl (own_of_mem_componentsSites hsubset hr)
  rw [h] at haging
  refine ⟨haging.sound, declared_declareAll hsubset hsound h, fun {name c} hname ↦ ?_⟩
  · rcases haging.new hname with hstart | ⟨r, hr, hdeclares, hraw⟩
    · cases hstart
    · exact ⟨r.raw, hraw, hasBase_of_declares hmap hr hdeclares⟩

theorem Founded.emit (hmap : (components.map (·.1)).Nodup) {setting : Emission.Setting}
    {op : Operation} {e e' : Emission} {result : Except Fault (List Method)}
    (h : Founded components e.draft) (hsetting : setting.components = components)
    (hexec : exec (Emission.emit setting op) e = (result, e')) : Founded components e'.draft := by
  subst hsetting
  have hstarts : Starts Emission.draft e.draft.registry setting.components
      (Emission.emit setting op) _ := Emission.starts_emit op
  have haging := hstarts.aging_within closed_located h.sound (.refl _)
    fun r hr ↦ .inr (Emission.spaced_of_mem_operationSites hr)
  rw [hexec] at haging
  exact h.aging hmap haging

/-- Every draft that is reached is founded. -/
theorem Reached.founded (hmap : (components.map (·.1)).Nodup) {d : Draft}
    (h : Reached components d) : Founded components d := by
  induction h with
  | declared hexec => exact founded_declareAll hmap hexec
  | named raws diagnostics _ ih => exact ih.resolveAll raws diagnostics
  | emitted _ hsetting hexec ih => exact ih.emit hmap hsetting hexec

/-! ## The order of the declarations -/

theorem exists_class_of_inherits {d : Draft} (hsound : d.Sound) {name base : String}
    (h : d.declarations.Inherits name base) :
    ∃ c : RecordClass, d.declarations.find? name = some (.record c) ∧ base ∈ c.bases := by
  obtain ⟨x, hx, hname, hbase⟩ := h
  cases x with
  | synonym => cases hbase
  | record c => exact ⟨c, (Declarations.find?_eq_some_iff hsound.names).2 ⟨hx, hname⟩, hbase⟩

/-- Every base is declared. -/
theorem Founded.basesDeclared {d : Draft} (h : Founded components d) :
    d.declarations.BasesDeclared := by
  intro x hx base hbase
  obtain ⟨c, hc, hbase⟩ := exists_class_of_inherits h.sound ⟨x, hx, rfl, hbase⟩
  obtain ⟨raw, -, hbases⟩ := h.based hc
  obtain ⟨root, hroot, hname, -⟩ := hbases base hbase
  obtain ⟨name, hname', hsome⟩ := h.declared root hroot.mem_names
  obtain rfl : base = name := Option.some.inj (hname.symm.trans hname')
  rwa [Declarations.contains_eq]

/-- Along the bases of a record's class run the records that it is derived from, unless one of them
has a space in its name. -/
theorem Founded.derives {d : Draft} (h : Founded components d)
    (hplain : ∀ root, components.IsRoot root → ' ' ∉ root.toList) {root name base : String}
    (hroot : components.IsRoot root) (hname : d.registry.identifier? root = some name)
    (hinherits : Relation.TransGen d.declarations.Inherits name base) :
    ∃ root', components.IsRoot root' ∧ d.registry.identifier? root' = some base ∧
      Relation.TransGen components.Derives root root' := by
  have hstep : ∀ {root name base}, components.IsRoot root →
      d.registry.identifier? root = some name → d.declarations.Inherits name base →
      ∃ root', components.IsRoot root' ∧ d.registry.identifier? root' = some base ∧
        components.Derives root root' := by
    intro root name base hroot hname hbase
    obtain ⟨c, hc, hbase⟩ := exists_class_of_inherits h.sound hbase
    obtain ⟨raw, hraw, hbases⟩ := h.based hc
    obtain rfl := h.sound.registry.injective hname hraw
    obtain ⟨root', hroot', hname', hderives⟩ := hbases base hbase
    exact ⟨root', hroot', hname', hderives.resolve_right (hplain root hroot)⟩
  induction hinherits with
  | single hbase =>
    obtain ⟨root', hroot', hname', hderives⟩ := hstep hroot hname hbase
    exact ⟨root', hroot', hname', .single hderives⟩
  | tail _ hbase ih =>
    obtain ⟨middle, hmiddle, hnamed, hderives⟩ := ih
    obtain ⟨root', hroot', hname', hlast⟩ := hstep hmiddle hnamed hbase
    exact ⟨root', hroot', hname', hderives.tail hlast⟩

/-- No class inherits from itself unless a record has a space in its name. -/
theorem Founded.acyclic {d : Draft} (h : Founded components d)
    (hplain : ∀ root, components.IsRoot root → ' ' ∉ root.toList) : d.declarations.Acyclic := by
  intro name hcycle
  obtain ⟨before, -, hlast⟩ := Relation.TransGen.tail'_iff.1 hcycle
  obtain ⟨c, hc, hbase⟩ := exists_class_of_inherits h.sound hlast
  obtain ⟨raw, -, hbases⟩ := h.based hc
  obtain ⟨root, hroot, hname, -⟩ := hbases name hbase
  obtain ⟨root', -, hname', hderives⟩ := h.derives hplain hroot hname hcycle
  obtain rfl := h.sound.registry.injective hname hname'
  exact Components.not_derives_self root hderives

/-- In every draft that is reached, the order lists each declaration once, and every base is
declared. The bases come before the classes that inherit from them just if no class inherits from
itself, and none does where no record component has a space in its name. -/
theorem ordered_basesFirst_iff (hmap : (components.map (·.1)).Nodup) {d : Draft}
    (h : Reached components d) :
    d.declarations.ordered.Perm d.declarations ∧
      (d.declarations.ordered.map (·.name)).Nodup ∧
      d.declarations.BasesDeclared ∧
      (Declarations.BasesFirst d.declarations.ordered ↔ d.declarations.Acyclic) ∧
      ((∀ root, components.IsRoot root → ' ' ∉ root.toList) →
        Declarations.BasesFirst d.declarations.ordered) := by
  have hfounded := h.founded hmap
  have hnames := hfounded.sound.names
  have hdeclared := hfounded.basesDeclared
  have hiff := Declarations.basesFirst_ordered_iff hnames hdeclared
  exact ⟨Declarations.ordered_perm hnames, (Declarations.orderly_ordered _).1, hdeclared, hiff,
    fun hplain ↦ hiff.2 (hfounded.acyclic hplain)⟩

/-- Components whose declaration succeeds are declared in the draft that it leaves. -/
theorem exec_of_toOption
    (h : (exec (declareAll components components) (.forComponents components)).1.toOption =
      some ()) :
    exec (declareAll components components) (.forComponents components) =
      (.ok (), (exec (declareAll components components) (.forComponents components)).2) := by
  refine Prod.ext ?_ rfl
  cases hresult : (exec (declareAll components components) (.forComponents components)).1 with
  | error fault =>
    rw [hresult] at h
    cases h
  | ok => rfl

theorem reached_of_toOption (components : Components)
    (h : (exec (declareAll components components) (.forComponents components)).1.toOption =
      some ()) :
    Reached components (exec (declareAll components components) (.forComponents components)).2 :=
  .declared (exec_of_toOption h)

/-- The schema of an object with one property. -/
def objectSchema (property : String) : Schema :=
  .object [⟨.text property, false, .scalar .string []⟩] none

/-- A record and, before it, one that is derived from it. -/
def derivedFirst : Components :=
  [("Sub", .allOf [.reference "Base", objectSchema "y"]), ("Base", objectSchema "x")]

theorem ordered_derivedFirst :
    ∃ d, Reached derivedFirst d ∧ d.declarations.map (·.name) = ["Sub", "Base"] ∧
      d.declarations.ordered.map (·.name) = ["Base", "Sub"] ∧
      Declarations.BasesFirst d.declarations.ordered := by
  have hreached := reached_of_toOption derivedFirst (by decide +kernel)
  refine ⟨_, hreached, by decide +kernel, by decide +kernel, ?_⟩
  obtain ⟨-, -, -, -, hplain⟩ := ordered_basesFirst_iff (by decide) hreached
  refine hplain fun root hroot ↦ ?_
  have hspaces : ∀ raw ∈ derivedFirst.map (·.1), ' ' ∉ raw.toList := by decide +kernel
  exact hspaces root hroot.mem_names

/-- A record whose name is the raw name of a field of another one, which is derived from it. -/
def spacedName : Components :=
  [("Pet", .object [⟨"tag", false, .allOf [.reference "Pet tag", objectSchema "x"]⟩] none),
    ("Pet tag", objectSchema "y")]

/-- The class of the field is declared under the name of its own base, before all others. -/
theorem ordered_spacedName :
    (spacedName.map (·.1)).Nodup ∧ ∃ d, Reached spacedName d ∧
      ¬ Declarations.BasesFirst d.declarations.ordered := by
  have hreached := reached_of_toOption spacedName (by decide +kernel)
  refine ⟨by decide, _, hreached, fun hfirst ↦ ?_⟩
  have hordered : (exec (declareAll spacedName spacedName)
      (.forComponents spacedName)).2.declarations.ordered.map (fun d ↦ (d.name, d.bases)) =
        [("PetTag", ["PetTag"]), ("Pet", [])] := by decide +kernel
  obtain ⟨d, rest, hsplit, hd, -⟩ := List.map_eq_cons_iff.1 hordered
  obtain ⟨-, hbases⟩ := Prod.mk.injEq .. ▸ hd
  obtain ⟨e, he, -⟩ := hfirst [] d rest hsplit "PetTag" (hbases ▸ List.mem_singleton_self _)
  cases he

/-! ## Runs -/

variable {description : Value} {options : Options} {content : Content}

theorem Reached.emitOrSkip {setting : Emission.Setting} {op : Operation} {e e' : Emission}
    {methods : List Method} (h : Reached setting.components e.draft)
    (hexec : exec (emitOrSkip setting op) e = (.ok methods, e')) :
    Reached setting.components e'.draft := by
  rcases emitOrSkip_cases hexec with ⟨emitted, hemit, -⟩ | ⟨chain, e₁, hemit, -, rfl⟩
  · exact h.emitted rfl hemit
  · exact (h.emitted rfl hemit).named [] _

theorem Reached.emitAll {setting : Emission.Setting} {ops : List Operation} {e e' : Emission}
    {methods : List Method} (h : Reached setting.components e.draft)
    (hexec : exec (emitAll setting ops) e = (.ok methods, e')) :
    Reached setting.components e'.draft := by
  induction ops generalizing e methods with
  | nil =>
    obtain ⟨-, rfl⟩ := exec_pure_eq_ok.1 hexec
    exact h
  | cons op ops ih =>
    obtain ⟨first, e₁, hfirst, hexec⟩ := of_exec_bind hexec
    obtain ⟨rest, e₂, hrest, hexec⟩ := of_exec_bind hexec
    obtain ⟨-, rfl⟩ := exec_pure_eq_ok.1 hexec
    exact ih (h.emitOrSkip hfirst) hrest

theorem Reached.emitClasses {setting : Emission.Setting} {groups : List Group} {e e' : Emission}
    {classes : List ApiClass} (h : Reached setting.components e.draft)
    (hexec : exec (emitClasses setting groups) e = (.ok classes, e')) :
    Reached setting.components e'.draft := by
  induction groups generalizing e classes with
  | nil =>
    obtain ⟨-, rfl⟩ := exec_pure_eq_ok.1 hexec
    exact h
  | cons g groups ih =>
    obtain ⟨methods, rest, e₁, -, hmethods, hrest⟩ := of_emitClasses_cons hexec
    exact ih (Reached.emitAll (e := { e with methods := .forMethods }) h hmethods) hrest

/-- The final draft of a run is reached. -/
theorem Run.reached (run : Run description options content) :
    Reached run.components run.final.draft := by
  have hemission : Reached run.setting.components run.emission.draft := by
    unfold Run.emission
    rw [resolveAll_ofOperations]
    exact (Reached.declared run.exec_declareAll).named _ _
  exact hemission.emitClasses run.exec_emitClasses

end Module

end ApiClient

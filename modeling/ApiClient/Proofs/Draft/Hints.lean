import ApiClient.Proofs.Atoms
import ApiClient.Proofs.Components
import ApiClient.Proofs.Draft.Growth
import ApiClient.Proofs.Value.Literal

/-!
# Identifiers in the annotations of a draft

The annotation of a type is put together from names of builtin types, identifiers of components,
literals of choices and names of classes that are declared before it is used. So on a draft on which
types are rendered, every identifier in an annotation is settled: it is one of these names. What is
settled stays so while the draft is worked on.
-/

namespace ApiClient

open Work Lexis

/-- The annotations in a declaration. -/
def Declaration.hints : Declaration → List String
  | synonym _ hint => [hint]
  | record c => c.fields.map (·.type) ++ c.bases ++ c.extra.toList

/-- A schema refers to components only and restricts values to some of the choices only. -/
structure Schema.Covered (components : Components) (choices : List Value) (s : Schema) : Prop where
  references : s.references ⊆ components.map (·.1)
  values : s.choices ⊆ choices

namespace Draft

/-- The names of types that the language brings along. -/
def builtinTypes : List String :=
  ["Any", "str", "int", "float", "bool", "bytes", "list", "dict", "Literal", "None"]

variable {components : Components} {choices : List Value} {d d' : Draft}

/-- The identifier is that of a builtin type, a constant, a component or a declaration, or it stands
in the literal of a choice that is not native. -/
inductive Settles (components : Components) (choices : List Value) (d : Draft) : String → Prop
  | builtin {x} : x ∈ builtinTypes → Settles components choices d x
  | constant {x} : x ∈ Value.constants → Settles components choices d x
  | component {raw x} : raw ∈ components.map (·.1) → d.registry.identifier? raw = some x →
      Settles components choices d x
  | declared {x} : (d.declarations.find? x).isSome → Settles components choices d x
  | choice {v x} : v ∈ choices → v.native = false → x ∈ identifiers v.literal →
      Settles components choices d x

/-- Every identifier of the annotation is settled. -/
abbrev Spells (components : Components) (choices : List Value) (d : Draft) (hint : String) : Prop :=
  Reads (d.Settles components choices) hint

/-- What is given an identifier keeps it, and what is declared stays declared in some way. -/
structure Later (d d' : Draft) : Prop where
  registry : d.registry.Extends d'.registry
  declared : ∀ {name}, (d.declarations.find? name).isSome → (d'.declarations.find? name).isSome

theorem Later.trans {d d' d'' : Draft} (h : d.Later d') (h' : d'.Later d'') : d.Later d'' :=
  ⟨h.registry.trans h'.registry, h'.declared ∘ h.declared⟩

instance : IsPreorder Draft Later where
  refl d := ⟨.refl d.registry, id⟩
  trans _ _ _ := Later.trans

theorem Settles.later (hlater : d.Later d') {x : String} (h : d.Settles components choices x) :
    d'.Settles components choices x := by
  cases h with
  | builtin hx => exact .builtin hx
  | constant hx => exact .constant hx
  | component hraw hx => exact .component hraw (hlater.registry.assigned hx)
  | declared hx => exact .declared (hlater.declared hx)
  | choice hv hnative hx => exact .choice hv hnative hx

theorem Spells.later {hint : String} (h : d.Spells components choices hint)
    (hlater : d.Later d') : d'.Spells components choices hint :=
  Reads.mono h fun _ ↦ Settles.later hlater

/-- Identifiers are given to raw names as tokens, and every annotation is settled. -/
structure Fit (components : Components) (choices : List Value) (d : Draft) : Prop where
  registry : Name.Registry.forModule.Extends d.registry
  hints : ∀ x ∈ d.declarations, ∀ hint ∈ x.hints, d.Spells components choices hint

/-- What a piece of work on a fit draft ensures. -/
abbrev Ensures {α : Type} (components : Components) (choices : List Value) (x : Drafting α)
    (d : Draft) (Q : α → Draft → Prop) : Prop :=
  Work.Ensures (Fit components choices) Later x d Q

/-! ## Names -/

/-- The identifier of a raw name is read as itself. -/
theorem Fit.reads (h : d.Fit components choices) {raw name : String}
    (hname : d.registry.identifier? raw = some name) (hfit : d.Settles components choices name) :
    d.Spells components choices name :=
  reads_of_isIdentifier (h.registry.isIdentifier Name.isIdentifier_token hname) hfit

theorem Fit.spells_component (h : d.Fit components choices) {raw name : String}
    (hraw : raw ∈ components.map (·.1)) (hname : d.registry.identifier? raw = some name) :
    d.Spells components choices name := h.reads hname (.component hraw hname)

theorem spells_builtin {name : String} (h : name ∈ builtinTypes) :
    d.Spells components choices name := by
  have hall : ∀ name ∈ builtinTypes, Name.IsIdentifier name := by decide
  exact reads_of_isIdentifier (hall name h) (.builtin h)

theorem spells_any : d.Spells components choices "Any" := spells_builtin (by decide)

theorem clears_opener {opener : String} (name : String) (h : name ∈ builtinTypes)
    (hopener : opener = name ++ "[") : Clears (d.Settles components choices) opener := by
  have hbracket : Closes (d.Settles components choices) "[" :=
    closes_of_break (c := '[') (by decide)
  exact hopener ▸ (spells_builtin h).closed hbracket

/-- A type with its parameters in brackets. -/
theorem spells_application {opener parameters : String}
    (hopener : Clears (d.Settles components choices) opener)
    (hparameters : d.Spells components choices parameters) :
    d.Spells components choices (opener ++ parameters ++ "]") := by
  have hclose : Closes (d.Settles components choices) "]" := closes_of_break (c := ']') (by decide)
  exact ((Reads.append hopener hparameters).closed hclose).reads

theorem clears_literal : Clears (d.Settles components choices) "Literal[" :=
  clears_opener "Literal" (by decide) (by decide)

theorem clears_list : Clears (d.Settles components choices) "list[" :=
  clears_opener "list" (by decide) (by decide)

theorem clears_dict : Clears (d.Settles components choices) "dict[str, " := by
  have hopener : Clears (d.Settles components choices) "dict[" :=
    clears_opener "dict" (by decide) (by decide)
  have hstr : d.Spells components choices "str" := spells_builtin (by decide)
  have hkeys := hopener.append (hstr.closed closes_comma)
  rwa [show "dict[" ++ ("str" ++ ", ") = "dict[str, " by decide] at hkeys

theorem spells_union {members : List String}
    (h : ∀ text ∈ members, d.Spells components choices text) :
    d.Spells components choices (" | ".intercalate members) :=
  Reads.intercalate (closes_of_breaks _ (by decide) (by decide)) h

/-! ## Types -/

/-- The atoms of a type are known in a draft: they are components with their identifiers, and
restrictions to some of the choices. -/
def Knows (components : Components) (choices : List Value) (d : Draft) (atoms : List TypeExpr) :
    Prop :=
  ∀ a ∈ atoms, (∃ raw ∈ components.map (·.1), ∃ name, d.registry.identifier? raw = some name ∧
    a = .named name raw) ∨ ∃ values ⊆ choices, a = .literal values

variable {atoms atoms' : List TypeExpr}

theorem Knows.later (h : d.Knows components choices atoms) (hlater : d.Later d') :
    d'.Knows components choices atoms := by
  intro a ha
  refine (h a ha).imp_left ?_
  rintro ⟨raw, hraw, name, hname, rfl⟩
  exact ⟨raw, hraw, name, hlater.registry.assigned hname, rfl⟩

theorem Knows.of_subset (h : d.Knows components choices atoms) (hsubset : atoms' ⊆ atoms) :
    d.Knows components choices atoms' := fun a ha ↦ h a (hsubset ha)

theorem Knows.of_append (h : d.Knows components choices (atoms ++ atoms')) :
    d.Knows components choices atoms ∧ d.Knows components choices atoms' :=
  ⟨h.of_subset (List.subset_append_left _ _), h.of_subset (List.subset_append_right _ _)⟩

/-- A reduced type has the atoms of the type. -/
theorem Knows.of_collapse {e shape : TypeExpr} (h : d.Knows components choices e.atoms)
    (hshape : e.collapse = shape) : d.Knows components choices shape.atoms := by
  rwa [← hshape, TypeExpr.atoms_collapse]

/-- The identifier of a component that is known is settled. -/
theorem Fit.spells_named (hfit : d.Fit components choices) {name raw : String}
    (h : d.Knows components choices (TypeExpr.named name raw).atoms) :
    d.Spells components choices name := by
  rw [TypeExpr.atoms] at h
  rcases h _ (List.mem_singleton_self _) with ⟨raw', hraw, name', hname, hsame⟩ | ⟨_, _, hsame⟩
  · obtain ⟨rfl, rfl⟩ : name = name' ∧ raw = raw' := by simpa using hsame
    exact hfit.spells_component hraw hname
  · cases hsame

/-- The literals of choices that are known are settled. -/
theorem Knows.spells_literal {values : List Value}
    (h : d.Knows components choices (TypeExpr.literal values).atoms) {v : Value} (hv : v ∈ values) :
    d.Spells components choices v.literal := by
  rw [TypeExpr.atoms] at h
  rcases h _ (List.mem_singleton_self _) with ⟨_, _, _, _, hsame⟩ | ⟨values', hvalues, hsame⟩
  · cases hsame
  · obtain rfl : values = values' := by simpa using hsame
    exact Value.reads_literal v (fun _ ↦ .constant) fun hnative _ ↦ .choice (hvalues hv) hnative

/-! ## Changes of a draft -/

theorem later_of_registry {registry : Name.Registry} (h : d.registry.Extends registry)
    (diagnostics : List Diagnostic) : d.Later { d with registry, diagnostics } := ⟨h, id⟩

/-- Names and remarks do not touch the annotations. -/
theorem Fit.ofRegistry (hfit : d.Fit components choices) {registry : Name.Registry}
    (h : d.registry.Extends registry) (diagnostics : List Diagnostic) :
    Fit components choices { d with registry, diagnostics } where
  registry := hfit.registry.trans h
  hints x hx hint hhint := (hfit.hints x hx hint hhint).later (later_of_registry h diagnostics)

theorem later_put (d : Draft) (x : Declaration) :
    d.Later { d with declarations := d.declarations.put x } where
  registry := .refl _
  declared {name} hname := by
    rw [Declarations.find?_put]
    split
    · rfl
    · exact hname

/-- A declaration whose annotations are settled may be added. -/
theorem Fit.put (hfit : d.Fit components choices) {x : Declaration}
    (hx : ∀ hint ∈ x.hints, d.Spells components choices hint) :
    Fit components choices { d with declarations := d.declarations.put x } where
  registry := hfit.registry
  hints y hy hint hhint := by
    have hbefore : d.Spells components choices hint := by
      rcases Declarations.mem_put hy with rfl | hy
      · exact hx hint hhint
      · exact hfit.hints y hy hint hhint
    exact hbefore.later (later_put d x)

end Draft

namespace Drafting

open Draft

variable {components : Components} {choices : List Value} {d : Draft}

theorem ensures_report (hfit : d.Fit components choices) (x : Diagnostic) :
    Ensures components choices (report x) d fun _ _ ↦ True :=
  .modify (hfit.ofRegistry (.refl _) _) (later_of_registry (.refl _) _) trivial

theorem ensures_declare (hfit : d.Fit components choices) {x : Declaration}
    (hx : ∀ hint ∈ x.hints, d.Spells components choices hint) :
    Ensures components choices (declare x) d fun _ d' ↦ (d'.declarations.find? x.name).isSome := by
  refine .modify (hfit.put hx) (later_put d x) ?_
  rw [Declarations.find?_put, if_pos rfl]
  rfl

theorem ensures_identify (hfit : d.Fit components choices) (raw : String) :
    Ensures components choices (identify raw) d
      fun name d' ↦ d'.registry.identifier? raw = some name := by
  have hextends := Name.Registry.extends_resolve d.registry raw
  exact .modifyGet (hfit.ofRegistry hextends _) (later_of_registry hextends _)
    (Name.Registry.identifier?_resolve_self d.registry raw)

theorem ensures_follow {α : Type} (hfit : d.Fit components choices) (w : Walk α) :
    Ensures components choices (follow w) d fun a _ ↦ w.outcome = .ok a := by
  have hextends := Name.Registry.extends_resolveAll d.registry w.met
  unfold follow
  refine Work.Ensures.bind (Q := fun _ _ ↦ True) (.modify (hfit.ofRegistry hextends _)
    (later_of_registry hextends _) trivial) fun _ d' hfit' _ _ ↦ ?_
  cases w.outcome with
  | error chain => exact .throw _ hfit'
  | ok a => exact .pure hfit' rfl

/-- The type of a schema is known, if its references are components. -/
theorem ensures_typeOf (hfit : d.Fit components choices) {s : Schema}
    (hs : s.Covered components choices) :
    Ensures components choices (typeOf s) d fun e d' ↦ d'.Knows components choices e.atoms := by
  have hextends := Name.Registry.extends_resolveAll d.registry s.references
  refine .modifyGet (hfit.ofRegistry hextends _) (later_of_registry hextends _) fun a ha ↦ ?_
  rcases TypeExpr.isAtom_ofSchema _ s a ha with ⟨raw, hraw, rfl⟩ | ⟨values, hvalues, rfl⟩
  · refine .inl ⟨raw, hs.references hraw, _, ?_, rfl⟩
    have hcontains : (d.registry.resolveAll s.references).contains raw = true := by
      rw [Name.Registry.contains_resolveAll, List.contains_iff_mem.2 hraw, Bool.or_true]
    obtain ⟨name, hname⟩ := Option.isSome_iff_exists.1 hcontains
    change (d.registry.resolveAll s.references).identifier? raw =
      some ((d.registry.resolveAll s.references).resolve raw).1
    rw [Name.Registry.resolve_of_assigned hname, hname]
  · exact .inr ⟨values, List.Subset.trans hvalues hs.values, rfl⟩

/-! ## Rendering -/

theorem ensures_basesOf (hfit : d.Fit components choices) (raws : List String)
    {bases : List String} (hbases : ∀ base ∈ bases, d.Spells components choices base) :
    Ensures components choices (basesOf components raws bases) d
      fun out d' ↦ ∀ base ∈ out, d'.Spells components choices base := by
  induction raws generalizing d bases with
  | nil => exact .pure hfit hbases
  | cons raw raws ih =>
    unfold basesOf
    apply (ensures_follow hfit _).bind
    intro base d' hfit' hlater hwalk
    have hbases' := fun base hbase ↦ (hbases base hbase).later hlater
    cases base with
    | none => exact ih hfit' hbases'
    | some root =>
      apply (ensures_identify hfit' root).bind
      intro name d'' hfit'' hlater' hname
      have hroot := (Components.isRoot_of_recordBase hwalk).mem_names
      apply ih hfit''
      intro base hbase
      split at hbase
      · exact (hbases' base hbase).later hlater'
      · rcases List.mem_append.1 hbase with hbase | hbase
        · exact (hbases' base hbase).later hlater'
        · exact List.mem_singleton.1 hbase ▸ hfit''.spells_component hroot hname

theorem ensures_declareClass (hfit : d.Fit components choices) (raw : String) {c : RecordClass}
    (hc : ∀ hint ∈ (Declaration.record c).hints, d.Spells components choices hint) :
    Ensures components choices (declareClass raw c) d
      fun _ d' ↦ (d'.declarations.find? c.name).isSome := by
  have hfewer : ∀ hint ∈ (Declaration.record { c with bases := [] }).hints,
      d.Spells components choices hint := by
    intro hint hhint
    simp only [Declaration.hints, List.append_nil, List.mem_append] at hc hhint
    exact hc hint (hhint.imp_left .inl)
  unfold declareClass
  refine .lift_bind hfit fun functional _ ↦ ?_
  split
  · apply (ensures_report hfit _).bind
    intro _ d' hfit' hlater _
    exact ensures_declare hfit' fun hint hhint ↦ (hfewer hint hhint).later hlater
  · exact ensures_declare hfit hc

/-- The annotation that restricts values to some known choices. -/
theorem ensures_literals (hfit : d.Fit components choices) {values : List Value}
    (hvalues : d.Knows components choices (TypeExpr.literal values).atoms) :
    Ensures components choices
      (do return "Literal[" ++ ", ".intercalate (← values.mapM fun v ↦ v.literal?) ++ "]") d
      fun hint d' ↦ d'.Spells components choices hint := by
  have htexts : Ensures components choices
      (values.mapM fun v ↦ (liftM v.literal? : Drafting String)) d
      fun texts _ ↦ ∀ text ∈ texts, ∃ v ∈ values, text = v.literal :=
    .mapM hfit fun v _ d' hfit' ↦ .lift hfit' fun text htext ↦ Value.eq_of_literal? htext
  apply htexts.bind
  intro texts d' hfit' hlater htexts
  refine .pure hfit' (spells_application clears_literal (reads_commas fun text htext ↦ ?_))
  obtain ⟨v, hv, rfl⟩ := htexts text htext
  exact (hvalues.spells_literal hv).later hlater

theorem mem_putField {fields : List (Field String)} {f new : Field String}
    (h : f ∈ putField fields new) : f = new ∨ f ∈ fields := by
  unfold putField at h
  split at h
  · obtain ⟨g, hg, rfl⟩ := List.mem_map.1 h
    split
    · exact .inl rfl
    · exact .inr hg
  · rcases List.mem_append.1 h with h | h
    · exact .inr h
    · exact .inl (List.mem_singleton.1 h)

mutual

/-- The annotation of a known type is settled. -/
theorem ensures_render {d : Draft} (hfit : d.Fit components choices) (e : TypeExpr)
    (raw : String) (he : d.Knows components choices e.atoms) :
    Ensures components choices (render components e raw) d
      fun hint d' ↦ d'.Spells components choices hint := by
  rw [render]
  split
  · exact .pure hfit spells_any
  · exact .pure hfit (spells_builtin (by decide))
  · next kind _ =>
    refine .pure hfit (spells_builtin ?_)
    cases kind <;> decide
  · next values hshape => exact ensures_literals hfit (he.of_collapse hshape)
  · next name raw' hshape => exact .pure hfit (hfit.spells_named (he.of_collapse hshape))
  · next element hshape =>
    have hless := TypeExpr.size_lt_of_sequence hshape
    have helement := he.of_collapse hshape
    rw [TypeExpr.atoms] at helement
    apply (ensures_render hfit element _ helement).bind
    intro hint d' hfit' _ hhint
    exact .pure hfit' (spells_application clears_list hhint)
  · next members hshape =>
    have hless := TypeExpr.size_lt_of_union hshape
    have hmembers := he.of_collapse hshape
    rw [TypeExpr.atoms] at hmembers
    exact ensures_renderUnion hfit members raw 1 hmembers fun _ ht ↦ absurd ht List.not_mem_nil
  · next extra hshape =>
    have hless := TypeExpr.size_lt_of_record hshape
    have hextra := he.of_collapse hshape
    rw [TypeExpr.atoms] at hextra
    apply (ensures_renderExtra hfit extra _ hextra.of_append.2).bind
    intro text d' hfit' _ htext
    have hvalue : d'.Spells components choices (text.getD "Any") := by
      cases text with
      | none => exact spells_any
      | some text => exact htext text rfl
    exact .pure hfit' (spells_application clears_dict hvalue)
  · next f fields extra hshape =>
    have hless := TypeExpr.size_lt_of_record hshape
    have hparts := he.of_collapse hshape
    rw [TypeExpr.atoms] at hparts
    exact ensures_declareRecord hfit raw (f :: fields) extra hparts
      fun _ hbase ↦ absurd hbase List.not_mem_nil
  · next members hshape =>
    have hless := TypeExpr.size_lt_of_intersection hshape
    have hmembers := he.of_collapse hshape
    rw [TypeExpr.atoms] at hmembers
    apply (ensures_follow hfit _).bind
    intro isRecord d' hfit' hlater _
    cases isRecord with
    | false =>
      apply (ensures_report hfit' _).bind
      intro _ d'' hfit'' _ _
      exact .pure hfit'' spells_any
    | true =>
      apply (ensures_basesOf hfit' _ fun _ hbase ↦ absurd hbase List.not_mem_nil).bind
      intro bases d'' hfit'' hlater' hbases
      have hparts := (hmembers.of_subset (Contribution.atoms_ofMembers_subset members)).later hlater
      exact ensures_declareRecord hfit'' raw _ _ (hparts.later hlater') hbases
termination_by 4 * e.size
decreasing_by
  all_goals omega

theorem ensures_renderUnion {d : Draft} (hfit : d.Fit components choices)
    (members : List TypeExpr) (raw : String) (index : Nat)
    (hmembers : d.Knows components choices (TypeExpr.atomsOfAll members))
    {rendered : List String} (hrendered : ∀ text ∈ rendered, d.Spells components choices text) :
    Ensures components choices (renderUnion components members raw index rendered) d
      fun hint d' ↦ d'.Spells components choices hint := by
  match members with
  | [] =>
    rw [renderUnion]
    refine .pure hfit ?_
    split
    · exact spells_any
    · exact spells_union hrendered
  | e :: es =>
    rw [renderUnion]
    have hpos := e.size_pos
    rw [TypeExpr.atomsOfAll] at hmembers
    apply (ensures_render hfit e _ hmembers.of_append.1).bind
    intro text d' hfit' hlater htext
    split
    · exact .pure hfit' spells_any
    · refine ensures_renderUnion hfit' es raw (index + 1) (hmembers.of_append.2.later hlater)
        fun other hother ↦ ?_
      split at hother
      · exact (hrendered other hother).later hlater
      · rcases List.mem_append.1 hother with hother | hother
        · exact (hrendered other hother).later hlater
        · exact List.mem_singleton.1 hother ▸ htext
termination_by 4 * TypeExpr.sizeOfAll members + 1
decreasing_by
  all_goals
    simp only [TypeExpr.sizeOfAll]
    omega

/-- The name of a record class is settled once the class is declared. -/
theorem ensures_declareRecord {d : Draft} (hfit : d.Fit components choices) (raw : String)
    (fields : List (Field TypeExpr)) (extra : Option TypeExpr)
    (hparts : d.Knows components choices
      (TypeExpr.atomsOfFields fields ++ TypeExpr.atomsOfOption extra))
    {bases : List String} (hbases : ∀ base ∈ bases, d.Spells components choices base) :
    Ensures components choices (declareRecord components raw fields bases extra) d
      fun name d' ↦ d'.Spells components choices name := by
  rw [declareRecord]
  apply (ensures_identify hfit raw).bind
  intro name d₁ hfit₁ hlater₁ hname
  apply Work.Ensures.get_bind
  split
  · next hcontains =>
    rw [Declarations.contains_eq] at hcontains
    exact .pure hfit₁ (hfit₁.reads hname (.declared hcontains))
  · apply (ensures_renderFields hfit₁ raw fields (hparts.of_append.1.later hlater₁)
      fun _ hf ↦ absurd hf List.not_mem_nil).bind
    intro rendered d₂ hfit₂ hlater₂ hrendered
    apply (ensures_renderExtra hfit₂ extra _
      (hparts.of_append.2.later (hlater₁.trans hlater₂))).bind
    intro extra' d₃ hfit₃ hlater₃ hextra
    have hc : ∀ hint ∈ (Declaration.record ⟨name, rendered, bases, extra'⟩).hints,
        d₃.Spells components choices hint := by
      intro hint hhint
      simp only [Declaration.hints, List.mem_append, List.mem_map, Option.mem_toList] at hhint
      rcases hhint with (⟨f, hf, rfl⟩ | hbase) | hhint
      · exact (hrendered f hf).later hlater₃
      · exact (hbases hint hbase).later ((hlater₁.trans hlater₂).trans hlater₃)
      · exact hextra hint hhint
    apply (ensures_declareClass hfit₃ raw hc).bind
    intro _ d₄ hfit₄ hlater₄ hdeclared
    have hname₄ := ((hlater₂.trans hlater₃).trans hlater₄).registry.assigned hname
    exact .pure hfit₄ (hfit₄.reads hname₄ (.declared hdeclared))
termination_by 4 * (TypeExpr.sizeOfFields fields + TypeExpr.sizeOfOption extra) + 2

theorem ensures_renderFields {d : Draft} (hfit : d.Fit components choices) (raw : String)
    (fields : List (Field TypeExpr))
    (hfields : d.Knows components choices (TypeExpr.atomsOfFields fields))
    {rendered : List (Field String)}
    (hrendered : ∀ f ∈ rendered, d.Spells components choices f.type) :
    Ensures components choices (renderFields components raw fields rendered) d
      fun out d' ↦ ∀ f ∈ out, d'.Spells components choices f.type := by
  match fields with
  | [] =>
    rw [renderFields]
    exact .pure hfit hrendered
  | ⟨name, required, e⟩ :: fields =>
    rw [renderFields]
    have hpos := e.size_pos
    rw [TypeExpr.atomsOfFields] at hfields
    refine .lift_bind hfit fun plain _ ↦ ?_
    apply (ensures_render hfit e _ hfields.of_append.1).bind
    intro hint d' hfit' hlater hhint
    refine ensures_renderFields hfit' raw fields (hfields.of_append.2.later hlater) fun f hf ↦ ?_
    rcases mem_putField hf with rfl | hf
    · exact hhint
    · exact (hrendered f hf).later hlater
termination_by 4 * TypeExpr.sizeOfFields fields + 1
decreasing_by
  all_goals
    simp only [TypeExpr.sizeOfFields]
    omega

theorem ensures_renderExtra {d : Draft} (hfit : d.Fit components choices) (extra : Option TypeExpr)
    (raw : String) (hextra : d.Knows components choices (TypeExpr.atomsOfOption extra)) :
    Ensures components choices (renderExtra components extra raw) d
      fun out d' ↦ ∀ text ∈ out, d'.Spells components choices text := by
  match extra with
  | none =>
    rw [renderExtra]
    exact .pure hfit fun _ htext ↦ nomatch htext
  | some e =>
    rw [renderExtra]
    apply (ensures_render hfit e raw hextra).bind
    intro text d' hfit' _ htext
    exact .pure hfit' fun other hother ↦ Option.mem_some_iff.1 hother ▸ htext
termination_by 4 * TypeExpr.sizeOfOption extra + 1
decreasing_by
  simp only [TypeExpr.sizeOfOption]
  omega

end

/-! ## Components -/

theorem ensures_componentType (hfit : d.Fit components choices) (raw : String) {s : Schema}
    (hs : s.Covered components choices) :
    Ensures components choices (componentType components raw s) d
      fun e d' ↦ d'.Knows components choices e.atoms := by
  unfold componentType
  apply (ensures_follow hfit _).bind
  intro _ d' hfit' _ _
  apply (ensures_typeOf hfit' hs).bind
  intro e d'' hfit'' _ he
  exact .pure hfit'' (he.of_collapse rfl)

theorem ensures_hasClass (hfit : d.Fit components choices) (e : TypeExpr) :
    Ensures components choices (hasClass components e) d fun _ _ ↦ True := by
  unfold hasClass
  split
  · exact (ensures_follow hfit _).mono fun _ _ _ ↦ trivial
  · exact .pure hfit trivial

theorem ensures_declareComponent (hfit : d.Fit components choices) (raw name : String) {s : Schema}
    (hs : s.Covered components choices) :
    Ensures components choices (declareComponent components raw s name) d fun _ _ ↦ True := by
  unfold declareComponent
  apply (ensures_componentType hfit raw hs).bind
  intro e d₁ hfit₁ _ he
  apply (ensures_hasClass hfit₁ e).bind
  intro isClass d₂ hfit₂ hlater _
  apply (ensures_render hfit₂ e raw (he.later hlater)).bind
  intro hint d₃ hfit₃ _ hhint
  cases isClass with
  | true =>
    apply Work.Ensures.get_bind
    split
    · exact .pure hfit₃ trivial
    · exact .throw _ hfit₃
  | false =>
    apply (ensures_declare hfit₃ (x := .synonym name hint)
      fun _ h ↦ List.mem_singleton.1 h ▸ hhint).bind
    intro _ d₄ hfit₄ _ _
    exact .pure hfit₄ trivial

/-- A component may be declared, also one whose references return to themselves. -/
theorem ensures_declareSchema (hfit : d.Fit components choices) (raw : String) {s : Schema}
    (hs : s.Covered components choices) :
    Ensures components choices (declareSchema components raw s) d fun _ _ ↦ True := by
  unfold declareSchema
  apply (ensures_identify hfit raw).bind
  intro name d₁ hfit₁ _ _
  apply (ensures_declareComponent hfit₁ raw name hs).recover
  intro fault d₂ hfit₂ _
  cases fault with
  | recursiveSchema chain =>
    apply (ensures_report hfit₂ _).bind
    intro _ d₃ hfit₃ _ _
    apply (ensures_declare hfit₃ (x := .synonym name "Any")
      fun _ h ↦ List.mem_singleton.1 h ▸ spells_any).bind
    intro _ d₄ hfit₄ _ _
    exact .pure hfit₄ trivial
  | _ => exact .throw _ hfit₂

end Drafting

end ApiClient

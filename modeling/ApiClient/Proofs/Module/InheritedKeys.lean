import ApiClient.Proofs.Ancestry
import ApiClient.Proofs.Module.Inheritance
import ApiClient.Proofs.Value.Equality

/-!
# Keys of a class and its bases

Where no component has a space in its name and nothing was remarked on while the components were
declared, the class of a component is the one that its own rendering declares: no other one is
declared under its name, and no base was dropped. So the class has the keys of the records that the
component is composed of, its bases are the classes of the records that the component is derived
from, and the keys along the bases are the properties of the object schemas that one gets to from
the component.
-/

namespace ApiClient

open Relation Work Draft Drafting

variable {components : Components}

/-! ## Keys -/

theorem isIn_iff {key : Value} {keys : List Value} :
    key.isIn keys = true ↔ ∃ k ∈ keys, key.same k = true := List.any_eq_true

theorem isIn_putKey (key : Value) (keys : List (Value × Bool)) (new : Value × Bool) :
    key.isIn ((putKey keys new).map (·.1)) = true ↔
      key.isIn (keys.map (·.1)) = true ∨ key.same new.1 = true := by
  simp only [isIn_iff, List.mem_map, exists_exists_and_eq_and]
  unfold putKey
  split
  · next hany =>
    obtain ⟨old, hold, hsame⟩ := List.any_eq_true.1 hany
    simp only [List.mem_map, exists_exists_and_eq_and]
    constructor
    · rintro ⟨k, hk, hkey⟩
      split at hkey
      · exact .inr hkey
      · exact .inl ⟨k, hk, hkey⟩
    · rintro (⟨k, hk, hkey⟩ | hkey)
      · refine ⟨k, hk, ?_⟩
        split
        · next hreplaced => exact Value.same_trans hkey hreplaced
        · exact hkey
      · exact ⟨old, hold, by rwa [if_pos hsame]⟩
  · simp only [List.mem_append, List.mem_singleton, or_and_right, exists_or, exists_eq_left]

/-- The keys of fields are found among their names, and the other way round. -/
theorem isIn_keysOf {α : Type} (key : Value) (fields : List (Field α)) :
    key.isIn ((keysOf fields).map (·.1)) = true ↔ key.isIn (fields.map (·.name)) = true := by
  have hput : ∀ (new keys : List (Value × Bool)),
      key.isIn ((new.foldl putKey keys).map (·.1)) = true ↔
        key.isIn (keys.map (·.1)) = true ∨ key.isIn (new.map (·.1)) = true := by
    intro new
    induction new with
    | nil => simp [Value.isIn]
    | cons k new ih =>
      intro keys
      rw [List.foldl_cons, ih, isIn_putKey, or_assoc]
      simp [Value.isIn]
  have hnames : (fields.map Field.key).map (·.1) = fields.map (·.name) := by
    rw [List.map_map]
    rfl
  rw [keysOf, hput, hnames]
  simp [Value.isIn]

/-! ## Diagnostics of a site -/

/-- Diagnostics are only added. -/
def Draft.Reports (d d' : Draft) : Prop :=
  Diagnostic.Appends (fun _ ↦ True) d.diagnostics d'.diagnostics

instance : IsPreorder Draft Reports where
  refl _ := Diagnostic.Appends.refl _
  trans _ _ _ h h' := Diagnostic.Appends.trans h h'

theorem Draft.Remarks.reports {d d' : Draft} (h : Remarks d d') : Reports d d' :=
  Diagnostic.Appends.mono (fun _ _ ↦ trivial) h

theorem Draft.Reports.eq_nil {d d' : Draft} (h : Reports d d') (hd' : d'.diagnostics = []) :
    d.diagnostics = [] := by
  have hsubset := Diagnostic.Appends.subset h
  rw [hd'] at hsubset
  exact List.subset_nil.1 hsubset

namespace Drafting

theorem reports_of_remarks {α : Type} {x : Drafting α} (h : Respects Remarks x) :
    Respects Reports x := fun d ↦ (h d).reports

theorem reports_report (x : Diagnostic) : Respects Reports (report x) :=
  fun _ ↦ Diagnostic.Appends.single trivial

/-- What a component's declaration does once it is rendered. -/
theorem reports_conclude (isClass : Bool) (name hint : String) :
    Respects Reports (show Drafting Declaration from do
      if isClass then
        match (← get).declarations.find? name with
        | some d => return d
        | none => throw (.missing name)
      else
        declare (.synonym name hint)
        return .synonym name hint) := by
  cases isClass with
  | true =>
    apply Respects.get.bind
    intro d
    split
    · exact Respects.pure _
    · exact Respects.throw _
  | false => exact (reports_of_remarks (remarks_declare _)).bind fun _ ↦ Respects.pure _

theorem reports_declareComponent (raw : String) (s : Schema) (name : String) :
    Respects Reports (declareComponent components raw s name) := by
  unfold declareComponent
  apply (reports_of_remarks fun d ↦ (progress_componentType raw s d).2).bind
  intro e
  apply (reports_of_remarks fun d ↦ (progress_hasClass e d).2).bind
  intro isClass
  exact (reports_of_remarks (remarks_render e raw)).bind fun hint ↦
    reports_conclude isClass name hint

/-- What is caught adds to what was reported. -/
theorem reports_recover (raw name : String) (fault : Fault) :
    Respects Reports (show Drafting Declaration from match fault with
      | .recursiveSchema chain => do
        report (.error ("schema " ++ raw) (Fault.recursionText chain))
        declare (.synonym name "Any")
        return .synonym name "Any"
      | fault => throw fault) := by
  cases fault with
  | recursiveSchema chain =>
    apply (reports_report _).bind
    intro _
    exact (reports_of_remarks (remarks_declare _)).bind fun _ ↦ Respects.pure _
  | _ => exact Respects.throw _

theorem reports_declareSchema (raw : String) (s : Schema) :
    Respects Reports (declareSchema components raw s) := by
  unfold declareSchema
  apply (reports_of_remarks (remarks_identify raw)).bind
  intro name d
  exact (reports_declareComponent raw s name d).catch fun fault d' _ ↦
    reports_recover raw name fault d'

/-- What is reported while a component is rendered is reported by its declaration. -/
theorem reports_of_mem_componentSites {raw : String} {s : Schema} {d : Draft} {r : Rendering}
    (h : r ∈ componentSites components raw s d) (name : String) :
    Reports (r.after components) (exec (declareComponent components raw s name) d).2 := by
  obtain ⟨e, d₁, htype, h⟩ := Sites.mem_next.1 h
  obtain ⟨isClass, d₂, hclass, h⟩ := Sites.mem_next.1 h
  obtain rfl := List.mem_singleton.1 h
  unfold declareComponent
  rw [exec_bind_of_ok htype, exec_bind_of_ok hclass]
  exact Respects.after (reports_conclude isClass name) (render components e raw) d₂

theorem reports_of_mem_schemaSites {raw : String} {s : Schema} {d : Draft} {r : Rendering}
    (h : r ∈ Sites.next (identify raw) (fun _ ↦ componentSites components raw s) d) :
    Reports (r.after components) (exec (declareSchema components raw s) d).2 := by
  rw [Sites.next_of_ok (exec_identify raw d)] at h
  unfold declareSchema
  rw [exec_bind_of_ok (exec_identify raw d), exec_catch]
  have hsite := reports_of_mem_componentSites h (d.registry.resolve raw).1
  rcases hexec : exec (declareComponent components raw s _) _ with ⟨fault | x, d'⟩
  · rw [hexec] at hsite
    exact IsTrans.trans _ _ _ hsite (reports_recover raw _ fault d')
  · rwa [hexec] at hsite

end Drafting

namespace Module

theorem reports_declareAll (part : Components) :
    Respects Reports (declareAll components part) := by
  induction part with
  | nil => exact Respects.pure _
  | cons component rest ih =>
    obtain ⟨raw, s⟩ := component
    exact (reports_declareSchema raw s).bind fun _ ↦ ih

theorem reports_of_mem_componentsSites {part : Components} {d : Draft} {r : Rendering}
    (h : r ∈ componentsSites components part d) :
    Reports (r.after components) (exec (declareAll components part) d).2 := by
  induction part generalizing d with
  | nil => cases h
  | cons component rest ih =>
    obtain ⟨raw, s⟩ := component
    rcases List.mem_append.1 h with h | h
    · exact IsTrans.trans _ _ _ (reports_of_mem_schemaSites h)
        (Respects.after (fun _ ↦ reports_declareAll rest) (declareSchema components raw s) d)
    · obtain ⟨x, d', hexec, h⟩ := Sites.mem_next.1 h
      rw [declareAll, exec_bind_of_ok hexec]
      exact ih h

/-! ## Classes of components -/

/-- The components are declared without a remark, and none of them has a space in its name. -/
structure Silent (components : Components) (d : Draft) : Prop where
  names : (components.map (·.1)).Nodup
  plain : ∀ raw ∈ components.map (·.1), ' ' ∉ raw.toList
  declared : exec (declareAll components components) (.forComponents components) = (.ok (), d)
  silent : d.diagnostics = []

end Module

namespace Rendering

variable {r : Rendering} {d : Draft} {fields : List (Field TypeExpr)} {bases : List String}
  {extra : Option TypeExpr}

/-- The type that a class is opened for is a record, and no reference to one. -/
theorem Opens.isRecord (h : Opens components r d fields bases extra) :
    (∀ identifier target, r.type.collapse ≠ .named identifier target) ∧
      (components.isRecord [] r.type.collapse).outcome = .ok true := by
  cases h with
  | record hshape =>
    rw [hshape]
    refine ⟨fun _ _ hnamed ↦ ?_, ?_⟩
    · cases hnamed
    · rw [Components.isRecord]
      rfl
  | intersection hshape hrecord =>
    rw [hshape]
    exact ⟨fun _ _ hnamed ↦ (by cases hnamed), outcome_of_follow hrecord⟩

end Rendering

namespace Module

namespace Silent

variable {d : Draft}

/-- The class of a component is declared by the rendering of the component, on which nothing is
remarked. -/
theorem exists_declares (h : Silent components d) {raw name : String} {c : RecordClass}
    (hmem : raw ∈ components.map (·.1)) (hname : d.registry.identifier? raw = some name)
    (hclass : d.declarations.find? name = some (.record c)) :
    ∃ r : Rendering, r.raw = raw ∧ r.Own components ∧ r.Declares components c ∧
      r.draft.Sound ∧ (r.after components).registry.Extends d.registry ∧
      (r.after components).diagnostics = [] := by
  have hsubset := List.Subset.refl components
  have hstarts : Starts id (Draft.forComponents components).registry components _ _ :=
    starts_declareAll hsubset
  have hclosed : Rendering.Closed components fun r ↦
      r ∈ componentsSites components components (.forComponents components) ∨ r.Spaced :=
    fun _ _ _ hcall ↦ .inr hcall.spaced
  have haging := hstarts.aging_within (s := .forComponents components) hclosed
    (sound_forComponents components) (.refl _) fun r hr ↦ .inl hr
  rw [h.declared] at haging
  rcases haging.new hclass with hstart | ⟨r, hr, hdeclares, hraw⟩
  · cases hstart
  · obtain rfl := haging.sound.registry.injective hraw hname
    rcases hr.member with hsite | hspaced
    · have hreports := reports_of_mem_componentsSites hsite
      rw [h.declared] at hreports
      exact ⟨r, rfl, own_of_mem_componentsSites hsubset hsite, hdeclares, hr.sound, hr.registry,
        hreports.eq_nil h.silent⟩
    · exact absurd hspaced (h.plain _ hmem)

/-- The class of a component is that of a record. It has the keys of the component's shape, and its
bases are the classes of what the component is derived from. -/
theorem class_cases (h : Silent components d) {raw name : String} {c : RecordClass}
    (hmem : raw ∈ components.map (·.1)) (hname : d.registry.identifier? raw = some name)
    (hclass : d.declarations.find? name = some (.record c)) :
    ∃ s, components.lookup raw = some s ∧ components.IsRoot raw ∧
      (∀ key : Value, key.isIn (c.fields.map (·.name)) = true ↔
        key.isIn ((Components.shape s).fields.map (·.name)) = true) ∧
      ∀ base, base ∈ c.bases ↔ ∃ root, components.Derives raw root ∧
        d.registry.identifier? root = some base := by
  obtain ⟨r, rfl, hown, hdeclares, hsound, hregistry, hsilent⟩ :=
    h.exists_declares hmem hname hclass
  obtain ⟨d₁, fields, bases, extra, hopens⟩ := hdeclares.exists_opens hsound
  have hroot := hown.isRoot h.names hopens.isRecord.1 hopens.isRecord.2
  obtain ⟨s, identify, root, hs, htype, -⟩ := hown
  have hknown := Components.lookup_of_mem h.names hs
  refine ⟨s, hknown, hroot, fun key ↦ ?_, fun base ↦ ?_⟩
  · have hkeys := congrArg (List.map (·.1)) (hopens.of_declares hsound hdeclares).1
    rw [List.map_map, show (·.1) ∘ Field.key = (·.name : Field String → Value) from rfl] at hkeys
    rw [hkeys, isIn_keysOf, hopens.fields_eq, htype, isIn_iff, isIn_iff]
    refine exists_congr fun k ↦ and_congr_left fun _ ↦ ?_
    rw [Components.mem_name_fields_shape, TypeExpr.fields, TypeExpr.leaves_collapse,
      TypeExpr.leaves_collapse]
    exact Schema.mem_name_fields_ofSchema identify
  · obtain ⟨-, d₂, d₃, -, -, hbases⟩ := hopens.exec_of_declares hsound hdeclares
    have hbases : c.bases = bases := hbases.resolve_right fun hdropped ↦ hdropped.2 hsilent
    have hextends := (hopens.growth_after hsound).registry.trans hregistry
    rw [hbases, hopens.mem_bases_iff hsound hextends base, htype]
    simp only [Components.derives_iff hroot hknown, ← exists_and_left, ← exists_and_right,
      and_assoc]
    rw [exists_comm]
    refine exists_congr fun root ↦ exists_congr fun reference ↦ and_congr_left fun _ ↦ ?_
    rw [TypeExpr.parents, TypeExpr.leaves_collapse, TypeExpr.leaves_collapse]
    exact Schema.mem_parents_ofSchema identify

/-- A record component has a class. -/
theorem exists_class (h : Silent components d) {raw : String} (hroot : components.IsRoot raw) :
    ∃ name c, d.registry.identifier? raw = some name ∧
      d.declarations.find? name = some (.record c) := by
  obtain ⟨name, hname, hsome, haliased⟩ := exists_identifier_of_declareAll h.names h.declared hroot
  obtain ⟨c, hc⟩ := (exists_class_iff hsome).2 fun hexists ↦ by
    obtain ⟨chain, hchain⟩ := haliased.1 hexists
    rw [h.silent] at hchain
    cases hchain
  exact ⟨name, c, hname, hc⟩

/-- From the class of a component one gets to those of the records that it is derived from. -/
theorem inherits_iff (h : Silent components d) {raw name base : String}
    (hroot : components.IsRoot raw) (hname : d.registry.identifier? raw = some name) :
    d.declarations.Inherits name base ↔
      ∃ root, components.Derives raw root ∧ d.registry.identifier? root = some base := by
  obtain ⟨name', c, hname', hclass⟩ := h.exists_class hroot
  obtain rfl : name = name' := Option.some.inj (hname.symm.trans hname')
  obtain ⟨-, -, -, -, hbases⟩ := h.class_cases hroot.mem_names hname hclass
  have hsound := (founded_declareAll h.names h.declared).sound
  rw [← hbases base]
  constructor
  · intro hinherits
    obtain ⟨c', hclass', hbase⟩ := exists_class_of_inherits hsound hinherits
    rw [hclass] at hclass'
    injection hclass' with hrecord
    injection hrecord with hsame
    exact hsame ▸ hbase
  · intro hbase
    exact ⟨.record c, Declarations.mem_of_find? hclass, Declarations.name_of_find? hclass, hbase⟩

/-- Along the bases of the class of a component come the classes of the records that it is derived
from, at any depth. -/
theorem inherits_star_iff (h : Silent components d) {raw name base : String}
    (hroot : components.IsRoot raw) (hname : d.registry.identifier? raw = some name) :
    ReflTransGen d.declarations.Inherits name base ↔
      ∃ ancestor, ReflTransGen components.Derives raw ancestor ∧ components.IsRoot ancestor ∧
        d.registry.identifier? ancestor = some base := by
  constructor
  · intro hinherits
    induction hinherits with
    | refl => exact ⟨raw, .refl, hroot, hname⟩
    | tail _ hlast ih =>
      obtain ⟨middle, hderives, hmiddle, hnamed⟩ := ih
      obtain ⟨ancestor, hstep, hancestor⟩ := (h.inherits_iff hmiddle hnamed).1 hlast
      exact ⟨ancestor, hderives.tail hstep, hstep.isRoot_base, hancestor⟩
  · rintro ⟨ancestor, hderives, hancestor, hbase⟩
    induction hderives generalizing base with
    | refl =>
      obtain rfl : name = base := Option.some.inj (hname.symm.trans hbase)
      exact .refl
    | tail _ hlast ih =>
      obtain ⟨middle, -, hmiddle, -⟩ := h.exists_class hlast.isRoot
      have hinherits := (h.inherits_iff hlast.isRoot hmiddle).2 ⟨_, hlast, hbase⟩
      exact (ih hlast.isRoot hmiddle).tail hinherits

/-- The keys along the bases of the class of a component are those of the shapes of the components
that it is derived from. -/
theorem keys_iff (h : Silent components d) {raw name : String} (hroot : components.IsRoot raw)
    (hname : d.registry.identifier? raw = some name) (key : Value) :
    (∃ name' c, ReflTransGen d.declarations.Inherits name name' ∧
      d.declarations.find? name' = some (.record c) ∧
        key.isIn (c.fields.map (·.name)) = true) ↔
    ∃ ancestor t, ReflTransGen components.Derives raw ancestor ∧
      components.lookup ancestor = some t ∧
        key.isIn ((Components.shape t).fields.map (·.name)) = true := by
  constructor
  · rintro ⟨name', c, hinherits, hclass, hkey⟩
    obtain ⟨ancestor, hderives, hancestor, hname'⟩ := (h.inherits_star_iff hroot hname).1 hinherits
    obtain ⟨t, hknown, -, hkeys, -⟩ := h.class_cases hancestor.mem_names hname' hclass
    exact ⟨ancestor, t, hderives, hknown, (hkeys key).1 hkey⟩
  · rintro ⟨ancestor, t, hderives, hknown, hkey⟩
    have hancestor : components.IsRoot ancestor := by
      rcases hderives.cases_tail with rfl | ⟨_, -, hlast⟩
      · exact hroot
      · exact hlast.isRoot_base
    obtain ⟨name', c, hname', hclass⟩ := h.exists_class hancestor
    obtain ⟨t', hknown', -, hkeys, -⟩ := h.class_cases hancestor.mem_names hname' hclass
    obtain rfl : t = t' := Option.some.inj (hknown.symm.trans hknown')
    exact ⟨name', c, (h.inherits_star_iff hroot hname).2 ⟨ancestor, hderives, hancestor, hname'⟩,
      hclass, (hkeys key).2 hkey⟩

end Silent

/-- Where components are declared without a remark, a key is found in the class of a component or in
one that it inherits from, at any depth, just if it is the name of a property of an object schema
that one gets to from the component through members of intersections and references. -/
theorem inheritedKeys_iff {d : Draft} (h : Silent components d) {raw name : String} {s : Schema}
    {c : RecordClass} (hmem : (raw, s) ∈ components)
    (hname : d.registry.identifier? raw = some name)
    (hclass : d.declarations.find? name = some (.record c)) (key : Value) :
    (∃ name' c', ReflTransGen d.declarations.Inherits name name' ∧
      d.declarations.find? name' = some (.record c') ∧
        key.isIn (c'.fields.map (·.name)) = true) ↔
    ∃ properties additional,
      ReflTransGen components.Step s (.object properties additional) ∧
        key.isIn (properties.map (·.name)) = true := by
  have hraw : raw ∈ components.map (·.1) := List.mem_map_of_mem hmem
  have hknown := Components.lookup_of_mem h.names hmem
  obtain ⟨-, -, hroot, -⟩ := h.class_cases hraw hname hclass
  calc
    _ ↔ ∃ ancestor t, ReflTransGen components.Derives raw ancestor ∧
          components.lookup ancestor = some t ∧
            key.isIn ((Components.shape t).fields.map (·.name)) = true :=
      h.keys_iff hroot hname key
    _ ↔ ∃ k, (∃ ancestor t, ReflTransGen components.Derives raw ancestor ∧
          components.lookup ancestor = some t ∧
            k ∈ (Components.shape t).fields.map (·.name)) ∧ key.same k = true := by
      simp only [isIn_iff]
      constructor
      · rintro ⟨ancestor, t, hderives, ht, k, hk, hsame⟩
        exact ⟨k, ⟨ancestor, t, hderives, ht, hk⟩, hsame⟩
      · rintro ⟨k, ⟨ancestor, t, hderives, ht, hk⟩, hsame⟩
        exact ⟨ancestor, t, hderives, ht, k, hk, hsame⟩
    _ ↔ ∃ k, (∃ properties additional,
          ReflTransGen components.Step s (.object properties additional) ∧
            k ∈ properties.map (·.name)) ∧ key.same k = true := by
      simp only [Components.mem_name_fields_iff hroot hknown]
    _ ↔ _ := by
      simp only [isIn_iff]
      constructor
      · rintro ⟨k, ⟨properties, additional, hsteps, hk⟩, hsame⟩
        exact ⟨properties, additional, hsteps, k, hk, hsame⟩
      · rintro ⟨properties, additional, hsteps, k, hk, hsame⟩
        exact ⟨k, ⟨properties, additional, hsteps, hk⟩, hsame⟩

/-- A record that is derived from an alias of another one and adds a property to it. -/
def aliasedBase : Components :=
  [("Base", objectSchema "x"), ("Alias", .reference "Base"),
    ("Sub", .allOf [.reference "Alias", objectSchema "y"])]

/-- The keys and the bases of a class. -/
def layoutOf : Declaration → Option (List String × List String)
  | .synonym _ _ => none
  | .record c => some (c.fields.map (·.name.plain), c.bases)

theorem exists_class_of_layoutOf {d : Draft} {name : String} {keys bases : List String}
    (h : (d.declarations.find? name).bind layoutOf = some (keys, bases)) :
    ∃ c : RecordClass, d.declarations.find? name = some (.record c) ∧
      c.fields.map (·.name.plain) = keys ∧ c.bases = bases := by
  obtain ⟨x, hx, hlayout⟩ := Option.bind_eq_some_iff.1 h
  cases x with
  | synonym => cases hlayout
  | record c =>
    cases hlayout
    exact ⟨c, hx, rfl, rfl⟩

/-- The draft in which they are declared. -/
def aliasedDraft : Draft :=
  (exec (declareAll aliasedBase aliasedBase) (.forComponents aliasedBase)).2

theorem inheritedKeys_aliasedBase :
    ∃ c, Silent aliasedBase aliasedDraft ∧
      ("Sub", .allOf [.reference "Alias", objectSchema "y"]) ∈ aliasedBase ∧
      aliasedDraft.registry.identifier? "Sub" = some "Sub" ∧
      aliasedDraft.declarations.find? "Sub" = some (.record c) ∧
      c.fields.map (·.name.plain) = ["y"] ∧ c.bases = ["Base"] ∧
      ∃ name' c', ReflTransGen aliasedDraft.declarations.Inherits "Sub" name' ∧
        aliasedDraft.declarations.find? name' = some (.record c') ∧
          (Value.text "x").isIn (c'.fields.map (·.name)) = true := by
  have hsilent : Silent aliasedBase aliasedDraft :=
    ⟨by decide, by decide +kernel, exec_of_toOption (by decide +kernel), by decide +kernel⟩
  have hmem : ("Sub", .allOf [.reference "Alias", objectSchema "y"]) ∈ aliasedBase :=
    List.mem_of_getElem? (i := 2) rfl
  have hname : aliasedDraft.registry.identifier? "Sub" = some "Sub" := by decide +kernel
  have hlayout : (aliasedDraft.declarations.find? "Sub").bind layoutOf =
      some (["y"], ["Base"]) := by decide +kernel
  obtain ⟨c, hclass, hkeys, hbases⟩ := exists_class_of_layoutOf hlayout
  have hsteps : ReflTransGen aliasedBase.Step
      (.allOf [.reference "Alias", objectSchema "y"]) (objectSchema "x") :=
    .head (.member List.mem_cons_self) (.head (.target rfl) (.single (.target rfl)))
  exact ⟨c, hsilent, hmem, hname, hclass, hkeys, hbases,
    (inheritedKeys_iff hsilent hmem hname hclass (.text "x")).2
      ⟨_, _, hsteps, by decide +kernel⟩⟩

end Module

end ApiClient

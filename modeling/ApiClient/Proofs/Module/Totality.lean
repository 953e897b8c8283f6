import ApiClient.Proofs.Draft.Conclusion
import ApiClient.Proofs.Json.Reader
import ApiClient.Proofs.Module.DeclaredComponents

/-!
# Declaring never fails

A component whose schema is read from the interchange notation can always be declared. What is
declared has the name of the component and stands under it. Only a chain of references that returns
to itself ends the declaring of a component early, and this is caught; and where a component is to
become a class of its own, its rendering opens that class.
-/

namespace ApiClient

open Work Draft Drafting

variable {components : Components}

/-- A reduced type that has a class of its own opens the class when it is rendered. -/
theorem Rendering.exists_opens {r : Rendering} (hreduced : r.type.collapse = r.type)
    {d d' d'' : Draft} (hclass : exec (hasClass components r.type) d = (.ok true, d'))
    {hint : String} (hrender : exec (r.work components) r.draft = (.ok hint, d'')) :
    ∃ opened fields bases extra, Opens components r opened fields bases extra := by
  unfold hasClass at hclass
  cases hhoists : hoists r.type with
  | false =>
    rw [hhoists, if_neg Bool.false_ne_true] at hclass
    cases hclass
  | true =>
    rw [hhoists, if_pos rfl] at hclass
    have hrecord := outcome_of_follow hclass
    rw [work_eq, hreduced] at hrender
    cases htype : r.type with
    | record fields extra =>
      rw [htype] at hreduced hrecord
      cases fields with
      | nil =>
        rw [Components.isRecord] at hrecord
        cases hrecord
      | cons f fields => exact ⟨r.draft, f :: fields, [], extra, .record (htype ▸ hreduced)⟩
    | intersection members =>
      rw [htype] at hreduced hrecord hrender
      obtain ⟨isRecord, d₁, hfollow, hrender⟩ := of_exec_bind hrender
      obtain rfl : isRecord = true := Except.ok.inj ((outcome_of_follow hfollow).symm.trans hrecord)
      obtain ⟨bases, d₂, hbases, -⟩ := of_exec_bind hrender
      exact ⟨d₂, _, bases, _, .intersection (htype ▸ hreduced) hfollow hbases⟩
    | _ =>
      rw [htype] at hhoists
      cases hhoists

namespace Drafting

theorem ends_componentType (raw : String) (s : Schema) :
    Ends (componentType components raw s) := by
  unfold componentType
  exact (ends_follow _).bind fun _ ↦ Ends.bind (fun _ ↦ .result rfl trivial) fun _ ↦ ends_pure _

theorem ends_hasClass (e : TypeExpr) : Ends (hasClass components e) := by
  unfold hasClass
  split
  · exact ends_follow _
  · exact ends_pure false

/-- A component is declared under its name, unless a chain of references returns to itself. -/
theorem concludes_declareComponent {d : Draft} (hsound : d.Sound) {raw name : String}
    (hname : d.registry.identifier? raw = some name) {s : Schema} (hs : s.expressible = true) :
    Concludes (declareComponent components raw s name) d
      fun x d' ↦ x.name = name ∧ d'.declarations.find? x.name = some x := by
  unfold declareComponent
  apply (ends_componentType raw s d).bind
  intro e d₁ htype _
  have hgrown₁ := (grows_componentType components raw s).of_exec htype hsound
  obtain ⟨identify, base, rfl, -⟩ := exists_type_of_componentType htype
  apply (ends_hasClass _ d₁).bind
  intro isClass d₂ hclass _
  have hgrown₂ := (grows_hasClass components _).of_exec hclass hgrown₁.sound
  have hexpressible : (TypeExpr.ofSchema identify s).collapse.expressible = true := by
    apply TypeExpr.expressible_collapse
    rw [TypeExpr.expressible_ofSchema, hs]
  have hends : Ends (render components (TypeExpr.ofSchema identify s).collapse raw) :=
    Rendering.ends_work ⟨d₂, _, raw⟩ hexpressible
  apply (hends d₂).bind
  intro hint d₃ hrender _
  cases isClass with
  | false => exact .result rfl ⟨rfl, find?_put_synonym d₃ name hint⟩
  | true =>
    -- The class that the rendering opened stands under the name that the component has kept.
    obtain ⟨opened, fields, bases, extra, hopens⟩ :
        ∃ opened fields bases extra, Rendering.Opens components
          ⟨d₂, (TypeExpr.ofSchema identify s).collapse, raw⟩ opened fields bases extra :=
      Rendering.exists_opens (TypeExpr.collapse_collapse _) hclass hrender
    obtain ⟨hhint, hdeclared⟩ := hopens.of_hint hgrown₂.sound hrender
    have hgrown₃ := (Rendering.grows_render _ raw).of_exec hrender hgrown₂.sound
    have hkept := hgrown₃.registry.assigned
      (hgrown₂.registry.assigned (hgrown₁.registry.assigned hname))
    obtain rfl : hint = name := Option.some.inj (hhint.symm.trans hkept)
    obtain ⟨x, hx⟩ := Option.isSome_iff_exists.1 hdeclared
    have hxname : x.name = hint := Declarations.name_of_find? hx
    refine .result ?_ ⟨hxname, hxname ▸ hx⟩
    rw [if_pos rfl, exec_get_bind, hx]
    rfl

variable (components)

/-- A component can be declared in every sound draft, and stands under its name then. -/
theorem exists_declareSchema {d : Draft} (hsound : d.Sound) (raw : String) {s : Schema}
    (hs : s.expressible = true) :
    ∃ x d', exec (declareSchema components raw s) d = (.ok x, d') ∧
      x.name = (d.registry.resolve raw).1 ∧ d'.declarations.find? x.name = some x := by
  have hidentified : (d.identified raw).Sound := ⟨hsound.registry.resolve raw, hsound.names⟩
  unfold declareSchema
  rw [exec_bind_of_ok (exec_identify raw d)]
  exact (concludes_declareComponent hidentified (Rendering.identifier?_identified d raw)
    hs).recover fun chain d' ↦ ⟨_, _, rfl, rfl, find?_put_synonym d' _ "Any"⟩

/-- All components of a part can be declared. -/
theorem exists_declareAll {d : Draft} (hsound : d.Sound) {part : Components}
    (hpart : ∀ c ∈ part, c.2.expressible = true) :
    ∃ d', exec (Module.declareAll components part) d = (.ok (), d') ∧ Advances d d' := by
  induction part generalizing d with
  | nil => exact ⟨d, rfl, refl d⟩
  | cons c part ih =>
    obtain ⟨raw, s⟩ := c
    obtain ⟨hs, hpart⟩ := List.forall_mem_cons.1 hpart
    obtain ⟨x, d₁, hexec, -⟩ := exists_declareSchema components hsound raw hs
    have hadvance : Advances d d₁ := (advances_declareSchema components raw s).of_exec hexec
    obtain ⟨d', hrest, hadvance'⟩ := ih (hadvance hsound).1 hpart
    refine ⟨d', ?_, IsTrans.trans _ _ _ hadvance hadvance'⟩
    rw [Module.declareAll, exec_bind_of_ok hexec, hrest]

end Drafting

/-! ## Components of the interchange notation -/

namespace Module

/-- Components that are shapes of values of the notation can be written out. -/
theorem expressible_of_noted
    (hread : ∀ c ∈ components, ∃ v, Json.Noted v ∧ Schema.parse v = .ok c.2) :
    ∀ c ∈ components, c.2.expressible = true := by
  intro c hc
  obtain ⟨v, hnoted, hparse⟩ := hread c hc
  exact Schema.expressible_of_parse hnoted.isJson hnoted.writable hparse

/-- All components of a description that is read from a text in the interchange notation can be
declared. -/
theorem exists_declareAll_of_read {text : String} {description : Value}
    (hread : Json.read text = .ok description) {components : Components}
    (hcomponents : (do Description.components (← Description.shapes description)) =
      .ok components) :
    ∃ d, exec (declareAll components components) (.forComponents components) = (.ok (), d) := by
  have hexpressible := expressible_of_noted fun c hc ↦
    Description.exists_noted_of_mem_components (Json.noted_of_read hread) hcomponents hc
  obtain ⟨d, hexec, -⟩ :=
    exists_declareAll components (sound_forComponents components) hexpressible
  exact ⟨d, hexec⟩

/-- Once the names of all components are given and whatever components are declared, every component
can be declared; what is declared bears the name that the component has and stands under it. None
of this fails, and each component that was declared has a declaration. -/
theorem exists_declaration {components part : Components}
    (hread : ∀ c ∈ components, ∃ v, Json.Noted v ∧ Schema.parse v = .ok c.2)
    (hpart : part ⊆ components) :
    ∃ d, exec (declareAll components part) (.forComponents components) = (.ok (), d) ∧
      (∀ raw ∈ part.map (·.1), d.Declared raw) ∧
      ∀ raw s, (raw, s) ∈ components → ∃ x d',
        exec (declareSchema components raw s) d = (.ok x, d') ∧
        d.registry.resolve raw = (x.name, d.registry) ∧
        d'.declarations.find? x.name = some x := by
  have hexpressible := expressible_of_noted hread
  have hsound := sound_forComponents components
  obtain ⟨d, hexec, hadvance⟩ :=
    exists_declareAll components hsound fun c hc ↦ hexpressible c (hpart hc)
  obtain ⟨hdsound, hlater⟩ := hadvance hsound
  refine ⟨d, hexec, declared_declareAll hpart hsound hexec, fun raw s hmem ↦ ?_⟩
  obtain ⟨x, d', hdeclared, hname, hfound⟩ :=
    exists_declareSchema components hdsound raw (hexpressible _ hmem)
  refine ⟨x, d', hdeclared, ?_, hfound⟩
  -- The name was given before anything was declared.
  have hgiven : (forComponents components).registry.contains raw = true := by
    rw [forComponents, Name.Registry.contains_resolveAll,
      List.contains_iff_mem.2 (List.mem_map_of_mem hmem), Bool.or_true]
  obtain ⟨identifier, hidentifier⟩ := Option.isSome_iff_exists.1 (hlater.registry.contains hgiven)
  rw [Name.Registry.resolve_of_assigned hidentifier] at hname
  rw [hname, Name.Registry.resolve_of_assigned hidentifier]

/-- An alias of itself, and a record with fields of its own type and of an unknown one. -/
theorem exists_declaration_of_loops :
    let loop : Schema := .reference "Loop"
    let pet : Schema := .object [⟨.text "friend", false, .reference "Pet"⟩,
      ⟨.text "ghost", false, .reference "Ghost"⟩] none
    let components : Components := [("Loop", loop), ("Pet", pet)]
    (∀ c ∈ components, ∃ v, Json.Noted v ∧ Schema.parse v = .ok c.2) ∧
    ∃ d, exec (declareAll components [("Pet", pet), ("Loop", loop), ("Pet", pet)])
        (.forComponents components) = (.ok (), d) ∧
      (∀ raw ∈ ["Pet", "Loop", "Pet"], d.Declared raw) ∧
      ∀ raw s, (raw, s) ∈ components → ∃ x d',
        exec (declareSchema components raw s) d = (.ok x, d') ∧
        d.registry.resolve raw = (x.name, d.registry) ∧
        d'.declarations.find? x.name = some x := by
  intro loop pet components
  have hread : ∀ c ∈ components, ∃ v, Json.Noted v ∧ Schema.parse v = .ok c.2 := by
    let pointer (name : String) : Value := .map [(.text "$ref", .text name)]
    let fields : List (Value × Value) :=
      [(.text "friend", pointer "#/Pet"), (.text "ghost", pointer "#/Ghost")]
    intro c hc
    obtain rfl | rfl : c = ("Loop", loop) ∨ c = ("Pet", pet) := by simpa [components] using hc
    · exact ⟨pointer "#/Loop", ⟨rfl, rfl⟩, by rfl⟩
    · exact ⟨.map [(.text "properties", .map fields)], ⟨rfl, rfl⟩, by rfl⟩
  exact ⟨hread, exists_declaration hread (by simp [components])⟩

end Module

end ApiClient

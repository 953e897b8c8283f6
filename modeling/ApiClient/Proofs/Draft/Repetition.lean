import ApiClient.Proofs.Draft.Hints
import ApiClient.Proofs.Draft.Records

/-!
# Rendering again

A rendering leaves every declaration as it is. Once it has yielded an annotation it yields the same
one again, in the draft that it left and in every later one, and nothing is then declared and no
name is given: all names that it needs are given, and its class is declared. Later drafts are those
in which names keep their identifiers and declared names stay declared, whatever they stand for.

A draft is worked on by acts: names are asked for, schemas are typed, chains of references are
followed, types are rendered and components are declared. Each of them leads to a later draft, also
if it fails.
-/

namespace ApiClient

open Work Draft Drafting

namespace Name.Registry

/-- Names that are given already are given no second time. -/
theorem resolveAll_of_contains {r : Registry} {raws : List String}
    (h : ∀ raw ∈ raws, r.contains raw = true) : r.resolveAll raws = r := by
  induction raws with
  | nil => rfl
  | cons raw raws ih =>
    obtain ⟨hraw, hraws⟩ := List.forall_mem_cons.1 h
    obtain ⟨identifier, hidentifier⟩ := Option.isSome_iff_exists.1 hraw
    rw [resolveAll_cons, resolve_of_assigned hidentifier]
    exact ih hraws

theorem Extends.contains {r s : Registry} (h : r.Extends s) {raw : String}
    (hraw : r.contains raw = true) : s.contains raw = true := by
  obtain ⟨identifier, hidentifier⟩ := Option.isSome_iff_exists.1 hraw
  exact Option.isSome_of_eq_some (h.assigned hidentifier)

end Name.Registry

variable {components : Components} {α β : Type} {d d' : Draft}

theorem Draft.Growth.later {S : Rendering → Prop} (h : Growth components S d d') : d.Later d' where
  registry := h.registry
  declared hname := by
    obtain ⟨x, hx⟩ := Option.isSome_iff_exists.1 hname
    exact Option.isSome_of_eq_some (h.kept hx)

namespace Drafting

/-! ## Work that can be repeated -/

/-- In every later draft the work has the same result and changes nothing but the diagnostics. -/
def Repeats (x : Drafting α) (a : α) (d : Draft) : Prop :=
  ∀ d', d.Later d' → ∃ diagnostics, exec x d' = (.ok a, { d' with diagnostics })

theorem Repeats.later {x : Drafting α} {a : α} (h : Repeats x a d) (hlater : d.Later d') :
    Repeats x a d' :=
  fun d'' hlater' ↦ h d'' (hlater.trans hlater')

theorem Repeats.bind {x : Drafting α} {f : α → Drafting β} {a : α} {b : β} (hx : Repeats x a d)
    (hf : Repeats (f a) b d) : Repeats (x >>= f) b d := by
  intro d' hlater
  obtain ⟨diagnostics, hexec⟩ := hx d' hlater
  obtain ⟨diagnostics', hexec'⟩ := hf _ (hlater.trans (later_of_registry (.refl _) diagnostics))
  exact ⟨diagnostics', by rw [exec_bind_of_ok hexec, hexec']⟩

/-- The work only lets a draft grow, and where it has a result it can be repeated. -/
structure Lasting (components : Components) (x : Drafting α) : Prop where
  grows : Respects (Grows components Rendering.All) x
  repeats : ∀ {d d' : Draft} {a : α}, d.Sound → exec x d = (.ok a, d') → Repeats x a d'

theorem lasting_pure (a : α) : Lasting components (pure a) where
  grows := Respects.pure a
  repeats _ h := by
    obtain ⟨rfl, -⟩ := exec_pure_eq_ok.1 h
    exact fun d' _ ↦ ⟨d'.diagnostics, rfl⟩

theorem lasting_lift (e : Except Fault α) : Lasting components (liftM e : Drafting α) where
  grows := Respects.lift e
  repeats _ h := by
    obtain ⟨rfl, -⟩ := exec_lift_eq_ok.1 h
    exact fun d' _ ↦ ⟨d'.diagnostics, rfl⟩

theorem Lasting.bind {x : Drafting α} {f : α → Drafting β} (hx : Lasting components x)
    (hf : ∀ a, Lasting components (f a)) : Lasting components (x >>= f) where
  grows := hx.grows.bind fun a ↦ (hf a).grows
  repeats hsound h := by
    obtain ⟨a, d₁, hfirst, hrest⟩ := of_exec_bind h
    have hgrown := hx.grows.of_exec hfirst hsound
    have hgrown' := (hf a).grows.of_exec hrest hgrown.sound
    exact ((hx.repeats hsound hfirst).later hgrown'.later).bind ((hf a).repeats hgrown.sound hrest)

theorem Lasting.mapM {f : α → Drafting β} (hf : ∀ a, Lasting components (f a)) (as : List α) :
    Lasting components (as.mapM f) := by
  induction as with
  | nil =>
    rw [List.mapM_nil]
    exact lasting_pure []
  | cons a as ih =>
    rw [List.mapM_cons]
    exact (hf a).bind fun b ↦ ih.bind fun bs ↦ lasting_pure (b :: bs)

theorem lasting_report (x : Diagnostic) : Lasting components (report x) where
  grows := grows_report x
  repeats _ _ := fun _ _ ↦ ⟨_, rfl⟩

theorem lasting_identify (raw : String) : Lasting components (identify raw) where
  grows := grows_identify raw
  repeats {d _ _} _ h := by
    rw [exec_identify, Prod.mk.injEq, Except.ok.injEq] at h
    obtain ⟨rfl, rfl⟩ := h
    intro d' hlater
    have hname := hlater.registry.assigned (Name.Registry.identifier?_resolve_self d.registry raw)
    exact ⟨d'.diagnostics, by rw [exec_identify, Name.Registry.resolve_of_assigned hname]⟩

/-- What a walk meets is given names first, whatever its outcome. -/
theorem exec_follow (w : Walk α) (d : Draft) :
    exec (follow w) d =
      (w.outcome.mapError .recursiveSchema,
        { d with registry := d.registry.resolveAll w.met }) := by
  unfold follow
  rw [exec_modify_bind]
  cases w.outcome <;> rfl

theorem lasting_follow (w : Walk α) : Lasting components (follow w) where
  grows := grows_follow w
  repeats {d _ _} _ h := by
    rw [exec_follow, Prod.mk.injEq] at h
    obtain ⟨hresult, rfl⟩ := h
    intro d' hlater
    have hgiven : ∀ raw ∈ w.met, d'.registry.contains raw = true := by
      intro raw hraw
      refine hlater.registry.contains ?_
      rw [Name.Registry.contains_resolveAll, List.contains_iff_mem.2 hraw, Bool.or_true]
    refine ⟨d'.diagnostics, ?_⟩
    rw [exec_follow, hresult, Name.Registry.resolveAll_of_contains hgiven]

theorem lasting_basesOf (raws bases : List String) :
    Lasting components (basesOf components raws bases) := by
  induction raws generalizing bases with
  | nil => exact lasting_pure bases
  | cons raw raws ih =>
    unfold basesOf
    apply (lasting_follow _).bind
    intro base
    cases base with
    | none => exact ih bases
    | some root => exact (lasting_identify root).bind fun _ ↦ ih _

end Drafting

/-! ## Renderings -/

namespace Rendering

/-- Once the class of a rendering is declared, it is not opened again, whatever its fields and
bases would be. -/
theorem Opens.repeats {r : Rendering} {fields fields' : List (Field TypeExpr)}
    {bases bases' : List String} {extra extra' : Option TypeExpr} {hint : String}
    (h : Opens components r d fields bases extra) (hsound : r.draft.Sound)
    (hexec : exec (r.work components) r.draft = (.ok hint, d')) :
    Repeats (declareRecord components r.raw fields' bases' extra') hint d' := by
  obtain ⟨hraw, hdeclared⟩ := h.of_hint hsound hexec
  intro d'' hlater
  have hname := Name.Registry.resolve_of_assigned (hlater.registry.assigned hraw)
  have hcontains : d''.declarations.contains (d''.registry.resolve r.raw).1 = true := by
    rw [hname, Declarations.contains_eq]
    exact hlater.declared hdeclared
  refine ⟨d''.diagnostics, ?_⟩
  rw [exec_declareRecord_of_contains hcontains, identified, hname]

mutual

theorem repeats_work (r : Rendering) (hsound : r.draft.Sound) {hint : String} {d' : Draft}
    (h : exec (r.work components) r.draft = (.ok hint, d')) :
    Repeats (r.work components) hint d' := by
  have hopened {d : Draft} {fields : List (Field TypeExpr)} {bases : List String}
      {extra : Option TypeExpr} (hopens : Opens components r d fields bases extra) :
      Repeats (declareRecord components r.raw fields bases extra) hint d' :=
    hopens.repeats hsound h
  rw [work_eq] at h ⊢
  revert h
  match hshape : r.type.collapse with
  | .anything | .binary | .scalar _ | .named _ _ =>
    have hpure (text : String) : Lasting components (pure text) := lasting_pure text
    exact (hpure _).repeats hsound
  | .literal choices =>
    have hliterals : Lasting components
        (choices.mapM fun v ↦ (liftM v.literal? : Drafting String)) :=
      Lasting.mapM (fun v ↦ lasting_lift _) choices
    exact (hliterals.bind fun _ ↦ lasting_pure _).repeats hsound
  | .sequence element =>
    have hless := TypeExpr.size_lt_of_sequence hshape
    have helement : Lasting components (render components element (r.raw ++ " item")) :=
      ⟨grows_render _ _, fun hsound h ↦ repeats_work ⟨_, element, r.raw ++ " item"⟩ hsound h⟩
    exact (helement.bind fun _ ↦ lasting_pure _).repeats hsound
  | .union members =>
    have hless := TypeExpr.size_lt_of_union hshape
    exact (lasting_renderUnion members r.raw 1 []).repeats hsound
  | .record [] extra =>
    have hless := TypeExpr.size_lt_of_record hshape
    exact ((lasting_renderExtra extra (r.raw ++ " value")).bind fun _ ↦ lasting_pure _).repeats
      hsound
  | .record (f :: fields) extra => exact fun _ ↦ hopened (.record hshape)
  | .intersection members =>
    intro h
    obtain ⟨isRecord, d₁, hrecord, h⟩ := of_exec_bind h
    have hfollow : Lasting components (follow (components.isRecord [] (.intersection members))) :=
      lasting_follow _
    have hgrown₁ := hfollow.grows.of_exec hrecord hsound
    have hrepeats := hfollow.repeats hsound hrecord
    cases isRecord with
    | false =>
      have hopen : Lasting components (do
          Drafting.report (.warning r.raw
            "allOf mixes records with non-record schemas; typed as Any")
          return "Any") :=
        (lasting_report _).bind fun _ ↦ lasting_pure _
      have hgrown := hopen.grows.of_exec h hgrown₁.sound
      exact (hrepeats.later hgrown.later).bind (hopen.repeats hgrown₁.sound h)
    | true =>
      obtain ⟨bases, d₂, hbases, h⟩ := of_exec_bind h
      have hlasting : Lasting components
          (basesOf components (Contribution.ofMembers members).references []) :=
        lasting_basesOf _ _
      have hgrown₂ := hlasting.grows.of_exec hbases hgrown₁.sound
      have hopens := Opens.intersection hshape hrecord hbases
      have hgrown : Growth components All d₂ d' :=
        (leads_declareRecord closed_all r trivial hopens).of_exec h hgrown₂.sound
      have hbound := (hlasting.repeats hgrown₁.sound hbases).later hgrown.later
      exact (hrepeats.later (hgrown₂.later.trans hgrown.later)).bind (hbound.bind (hopened hopens))
termination_by 4 * r.type.size
decreasing_by
  all_goals omega

theorem lasting_renderUnion (members : List TypeExpr) (raw : String) (index : Nat)
    (rendered : List String) :
    Lasting components (renderUnion components members raw index rendered) := by
  match members with
  | [] =>
    rw [renderUnion]
    exact lasting_pure _
  | e :: es =>
    rw [renderUnion]
    have hpos := e.size_pos
    have hoption : Lasting components
        (render components e (raw ++ " option " ++ index.repr)) :=
      ⟨grows_render _ _, fun hsound h ↦
        repeats_work ⟨_, e, raw ++ " option " ++ index.repr⟩ hsound h⟩
    apply hoption.bind
    intro text
    split
    · exact lasting_pure _
    · exact lasting_renderUnion es raw (index + 1) _
termination_by 4 * TypeExpr.sizeOfAll members + 1
decreasing_by
  all_goals
    simp only [TypeExpr.sizeOfAll]
    omega

theorem lasting_renderExtra (extra : Option TypeExpr) (raw : String) :
    Lasting components (renderExtra components extra raw) := by
  match extra with
  | none =>
    rw [renderExtra]
    exact lasting_pure _
  | some e =>
    rw [renderExtra]
    have hextra : Lasting components (render components e raw) :=
      ⟨grows_render _ _, fun hsound h ↦ repeats_work ⟨_, e, raw⟩ hsound h⟩
    exact hextra.bind fun _ ↦ lasting_pure _
termination_by 4 * TypeExpr.sizeOfOption extra + 1
decreasing_by
  simp only [TypeExpr.sizeOfOption]
  omega

end

end Rendering

namespace Drafting

variable (components)

theorem lasting_render (e : TypeExpr) (raw : String) :
    Lasting components (render components e raw) :=
  ⟨Rendering.grows_render e raw, fun hsound h ↦ Rendering.repeats_work ⟨_, e, raw⟩ hsound h⟩

/-! ## Declaring components -/

/-- A sound draft leads to a sound one that is later. -/
def Advances (d d' : Draft) : Prop := d.Sound → d'.Sound ∧ d.Later d'

instance : IsPreorder Draft Advances where
  refl d h := ⟨h, refl d⟩
  trans _ _ _ h h' hsound := ⟨(h' (h hsound).1).1, (h hsound).2.trans (h' (h hsound).1).2⟩

theorem advances_of_grows {x : Drafting α} (h : Respects (Grows components Rendering.All) x) :
    Respects Advances x :=
  fun d hsound ↦ ⟨(h d hsound).sound, (h d hsound).later⟩

theorem advances_declare (x : Declaration) : Respects Advances (declare x) :=
  fun d hsound ↦ ⟨⟨hsound.registry, Declarations.nodup_name_put hsound.names x⟩, later_put d x⟩

theorem grows_componentType (raw : String) (s : Schema) :
    Respects (Grows components Rendering.All) (componentType components raw s) := by
  unfold componentType
  exact (grows_follow _).bind fun _ ↦ (grows_typeOf s).bind fun _ ↦ Respects.pure _

theorem grows_hasClass (e : TypeExpr) :
    Respects (Grows components Rendering.All) (hasClass components e) := by
  unfold hasClass
  split
  · exact grows_follow _
  · exact Respects.pure _

theorem advances_declareComponent (raw : String) (s : Schema) (name : String) :
    Respects Advances (declareComponent components raw s name) := by
  unfold declareComponent
  apply (advances_of_grows components (grows_componentType components raw s)).bind
  intro e
  apply (advances_of_grows components (grows_hasClass components e)).bind
  intro isClass
  apply (advances_of_grows components (Rendering.grows_render e raw)).bind
  intro hint
  split
  · apply Respects.get.bind
    intro d
    split
    · exact Respects.pure _
    · exact Respects.throw _
  · exact (advances_declare _).bind fun _ ↦ Respects.pure _

theorem advances_declareSchema (raw : String) (s : Schema) :
    Respects Advances (declareSchema components raw s) := by
  unfold declareSchema
  apply (advances_of_grows components (grows_identify raw)).bind
  intro name d
  refine (advances_declareComponent components raw s name d).catch fun fault d' _ ↦ ?_
  cases fault with
  | recursiveSchema chain =>
    exact (advances_of_grows components (grows_report _)).bind (fun _ ↦
      (advances_declare _).bind fun _ ↦ Respects.pure _) d'
  | _ => exact Respects.throw _ d'

end Drafting

/-! ## Acts -/

/-- What is asked of a registry, a resolver of types and a renderer that share a draft. -/
inductive Act where
  | name (call : Name.Registry.Call)
  | resolve (s : Schema)
  | recordBase (raw : String)
  | isRecord (e : TypeExpr)
  | render (e : TypeExpr) (raw : String)
  | declareSchema (raw : String) (s : Schema)
  | report (x : Diagnostic)

namespace Draft

variable (components)

/-- The draft that an act leaves, also if it fails. -/
def act (d : Draft) : Act → Draft
  | .name call => { d with registry := (d.registry.answer call).2 }
  | .resolve s => (exec (typeOf s) d).2
  | .recordBase raw => (exec (follow (components.recordBase [] raw)) d).2
  | .isRecord e => (exec (follow (components.isRecord [] e)) d).2
  | .render e raw => (exec (render components e raw) d).2
  | .declareSchema raw s => (exec (declareSchema components raw s) d).2
  | .report x => (exec (report x) d).2

/-- The draft that a row of acts leaves. -/
def acts (d : Draft) (row : List Act) : Draft := row.foldl (act components) d

/-- A draft in which nothing is declared and no raw name has a name. -/
def blank (reserved : List String) (style : String → String) : Draft where
  registry := .new reserved style
  declarations := []
  diagnostics := []

theorem sound_blank (reserved : List String) (style : String → String) :
    (blank reserved style).Sound where
  registry := Name.Registry.sound_new reserved style
  names := List.nodup_nil

theorem advances_act (d : Draft) (a : Act) : Advances d (act components d a) := by
  have hgrows {α : Type} {x : Drafting α} (h : Respects (Grows components Rendering.All) x) :
      Respects Advances x := advances_of_grows components h
  cases a with
  | name call =>
    exact fun hsound ↦ ⟨⟨hsound.registry.answer call, hsound.names⟩,
      later_of_registry (Name.Registry.extends_answer d.registry call) d.diagnostics⟩
  | resolve s => exact hgrows (grows_typeOf s) d
  | recordBase raw => exact hgrows (grows_follow _) d
  | isRecord e => exact hgrows (grows_follow _) d
  | render e raw => exact hgrows (Rendering.grows_render e raw) d
  | declareSchema raw s => exact advances_declareSchema components raw s d
  | report x => exact hgrows (grows_report x) d

theorem advances_acts (d : Draft) (row : List Act) : Advances d (acts components d row) := by
  induction row generalizing d with
  | nil => exact refl d
  | cons a row ih => exact IsTrans.trans _ _ _ (advances_act components d a) (ih _)

end Draft

namespace Drafting

/-- After whatever acts, a rendering leaves every declaration as it was, even if it fails. If it
yields an annotation, it yields the same one again, at once and after whatever further acts, and at
once it then changes neither the declarations nor the names. -/
theorem render_again (components : Components) (reserved : List String) (style : String → String)
    (before : List Act) (e : TypeExpr) (raw : String) :
    let d := (Draft.blank reserved style).acts components before
    let d' := (exec (render components e raw) d).2
    (∀ name x, d.declarations.find? name = some x → d'.declarations.find? name = some x) ∧
      ∀ hint, (exec (render components e raw) d).1 = .ok hint →
        (∃ diagnostics, exec (render components e raw) d' = (.ok hint, { d' with diagnostics })) ∧
        ∀ further : List Act,
          (exec (render components e raw) (d'.acts components further)).1 = .ok hint := by
  intro d d'
  have hsound : d.Sound :=
    (advances_acts components _ before (sound_blank reserved style)).1
  have hlasting := lasting_render components e raw
  have hgrown := hlasting.grows d hsound
  refine ⟨fun name x ↦ hgrown.kept, fun hint hhint ↦ ?_⟩
  have hrepeats := hlasting.repeats hsound (Prod.ext hhint rfl)
  refine ⟨hrepeats d' (refl d'), fun further ↦ ?_⟩
  obtain ⟨diagnostics, hexec⟩ :=
    hrepeats _ (advances_acts components d' further hgrown.sound).2
  rw [hexec]

/-- A class with a base and with a field of another class, after its base is declared. -/
theorem render_again_dog :
    let pet : Schema := .object [⟨"name", true, .scalar .string []⟩] none
    let owner : TypeExpr := .record [⟨"id", true, .scalar .integer⟩] none
    let dog : TypeExpr := .intersection [.named "Pet" "Pet", .record [⟨"owner", true, owner⟩] none]
    let components : Components := [("Pet", pet)]
    let d := (Draft.blank [] Name.token).acts components [.declareSchema "Pet" pet]
    let d' := (exec (render components dog "dog") d).2
    List.map (·.name) d'.declarations = ["Pet", "DogOwner", "Dog"] ∧
      (∃ diagnostics,
        exec (render components dog "dog") d' = (.ok "Dog", { d' with diagnostics })) ∧
      (exec (render components dog "dog")
        (d'.acts components [.render owner "cat", .name (.resolve "Dog")])).1 = .ok "Dog" := by
  intro pet owner dog components d d'
  have hresult : (exec (render components dog "dog") d).1.toOption = some "Dog" := by decide +kernel
  have hfirst : (exec (render components dog "dog") d).1 = .ok "Dog" := by
    cases h : (exec (render components dog "dog") d).1 with
    | error fault =>
      rw [h] at hresult
      cases hresult
    | ok hint =>
      rw [h] at hresult
      exact congrArg Except.ok (Option.some.inj hresult)
  obtain ⟨hnow, hlater⟩ := (render_again components [] Name.token
    [.declareSchema "Pet" pet] dog "dog").2 "Dog" hfirst
  exact ⟨by decide +kernel, hnow, hlater _⟩

end Drafting

end ApiClient

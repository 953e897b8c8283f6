import ApiClient.Proofs.Draft.Rendering

/-!
# Aging of a draft

A draft ages while components are declared and methods are emitted: what is declared stays or gives
way to an alias of a component, and every new class is one that some rendering declared. Work is
described by the sites in it at which renderings start. A draft ages by these and by the renderings
within them, and what each of them leaves ages into what the work leaves.
-/

namespace ApiClient

open Work Draft

variable {components : Components} {S : Rendering → Prop}

/-- How a draft ages by renderings of a set. -/
structure Draft.Aging (components : Components) (S : Rendering → Prop) (d d' : Draft) : Prop where
  sound : d'.Sound
  registry : d.registry.Extends d'.registry
  kept : ∀ {name x}, d.declarations.find? name = some x →
    d'.declarations.find? name = some x ∨
      ∃ hint, d'.declarations.find? name = some (.synonym name hint)
  new : ∀ {name c}, d'.declarations.find? name = some (.record c) →
    d.declarations.find? name = some (.record c) ∨
      ∃ r, S r ∧ r.Declares components c ∧ d'.registry.identifier? r.raw = some name
  aliases : ∀ {name text}, d'.declarations.find? name = some (.synonym name text) →
    d.declarations.find? name = some (.synonym name text) ∨
      ∃ raw ∈ components.map (·.1), d'.registry.identifier? raw = some name

namespace Draft

theorem Growth.aging {d d' : Draft} (h : Growth components S d d') : Aging components S d d' where
  sound := h.sound
  registry := h.registry
  kept hname := .inl (h.kept hname)
  new {name c} hname := by
    cases hbefore : d.declarations.find? name with
    | none =>
      obtain ⟨r, c', hr, hdeclares, hc, hraw⟩ := h.new hbefore hname
      obtain rfl : c = c' := by
        injection hc
      exact .inr ⟨r, hr, hdeclares, hraw⟩
    | some x => exact .inl ((h.kept hbefore).symm.trans hname)
  aliases {name text} hname := by
    cases hbefore : d.declarations.find? name with
    | none =>
      obtain ⟨r, c, -, -, hrecord, -⟩ := h.new hbefore hname
      cases hrecord
    | some x => exact .inl ((h.kept hbefore).symm.trans hname)

theorem Aging.refl {d : Draft} (h : d.Sound) : Aging components S d d := (Growth.refl h).aging

theorem Aging.trans {d d' d'' : Draft} (h : Aging components S d d')
    (h' : Aging components S d' d'') : Aging components S d d'' where
  sound := h'.sound
  registry := h.registry.trans h'.registry
  kept {name x} hname := by
    rcases h.kept hname with hmid | ⟨hint, hmid⟩
    · exact h'.kept hmid
    · rcases h'.kept hmid with hend | hend
      · exact .inr ⟨hint, hend⟩
      · exact .inr hend
  new {name c} hname := by
    rcases h'.new hname with hmid | hrest
    · rcases h.new hmid with hbefore | ⟨r, hr, hdeclares, hraw⟩
      · exact .inl hbefore
      · exact .inr ⟨r, hr, hdeclares, h'.registry.assigned hraw⟩
    · exact .inr hrest
  aliases {name text} hname := by
    rcases h'.aliases hname with hmid | hrest
    · rcases h.aliases hmid with hbefore | ⟨raw, hcomponent, hraw⟩
      · exact .inl hbefore
      · exact .inr ⟨raw, hcomponent, h'.registry.assigned hraw⟩
    · exact .inr hrest

theorem Aging.mono {S' : Rendering → Prop} (hS : ∀ r, S r → S' r) {d d' : Draft}
    (h : Aging components S d d') : Aging components S' d d' where
  sound := h.sound
  registry := h.registry
  kept := h.kept
  new hname := (h.new hname).imp_right fun ⟨r, hr, hrest⟩ ↦ ⟨r, hS r hr, hrest⟩
  aliases := h.aliases

/-- The alias of a component may take the place of what stands under its name. -/
theorem Aging.ofSynonym {d : Draft} (h : d.Sound) {raw name : String}
    (hcomponent : raw ∈ components.map (·.1)) (hraw : d.registry.identifier? raw = some name)
    (hint : String) :
    Aging components S d
      { d with declarations := d.declarations.put (.synonym name hint) } where
  sound := ⟨h.registry, Declarations.nodup_name_put h.names _⟩
  registry := .refl _
  kept {name x} hname := by
    rw [Declarations.find?_put, Declaration.name]
    split
    · next hsame =>
      subst hsame
      exact .inr ⟨hint, rfl⟩
    · exact .inl hname
  new {name c} hname := by
    rw [Declarations.find?_put, Declaration.name] at hname
    split at hname
    · cases hname
    · exact .inl hname
  aliases {name text} hname := by
    rw [Declarations.find?_put, Declaration.name] at hname
    split at hname
    · next hsame =>
      subst hsame
      exact .inr ⟨raw, hcomponent, hraw⟩
    · exact .inl hname

end Draft

/-- The renderings of a set that meet a sound draft and leave one whose names are known in the end. -/
structure Rendering.Within (components : Components) (S : Rendering → Prop) (d : Draft)
    (r : Rendering) : Prop where
  member : S r
  sound : r.draft.Sound
  registry : (r.after components).registry.Extends d.registry

/-! ## Work on a state with a draft -/

section

variable {σ α β : Type} (view : σ → Draft) (known : Name.Registry)

/-- A sound draft in which some names are known ages into the other one. -/
def Ages (components : Components) (S : Rendering → Prop) (s t : σ) : Prop :=
  (view s).Sound → known.Extends (view s).registry → Aging components S (view s) (view t)

instance : IsPreorder σ (Ages view known components S) where
  refl _ h _ := .refl h
  trans _ _ _ h h' hsound hknown :=
    (h hsound hknown).trans (h' (h hsound hknown).sound (hknown.trans (h hsound hknown).registry))

/-- Work in which no class is declared. -/
def Quiet (components : Components) (x : Work σ α) : Prop :=
  ∀ S, Respects (Ages view known components S) x

/-- The renderings that start within a piece of work, by the state in which the work starts. -/
abbrev Sites (σ : Type) := σ → List Rendering

namespace Sites

def none : Sites σ := fun _ ↦ []

def or (R R' : Sites σ) : Sites σ := fun s ↦ R s ++ R' s

/-- The sites in what follows a step, from the state in which the step leaves a result. -/
def next (x : Work σ α) (R : α → Sites σ) : Sites σ := fun s ↦
  match exec x s with
  | (.ok a, t) => R a t
  | (.error _, _) => []

theorem next_of_ok {x : Work σ α} {s t : σ} {a : α} (h : exec x s = (.ok a, t))
    (R : α → Sites σ) : next x R s = R a t := by
  rw [next, h]

theorem next_of_error {x : Work σ α} {s t : σ} {fault : Fault}
    (h : exec x s = (.error fault, t)) (R : α → Sites σ) : next x R s = [] := by
  rw [next, h]

theorem mem_next {x : Work σ α} {R : α → Sites σ} {s : σ} {r : Rendering} :
    r ∈ next x R s ↔ ∃ a t, exec x s = (.ok a, t) ∧ r ∈ R a t := by
  rcases hexec : exec x s with ⟨fault | a, t⟩
  · simp [next_of_error hexec]
  · simp [next_of_ok hexec]

end Sites

/-- The renderings that start within a piece of work start at some sites. -/
structure Starts (components : Components) (x : Work σ α) (R : Sites σ) : Prop where
  ages : ∀ {S}, Rendering.Closed components S → ∀ s, (∀ r ∈ R s, S r) →
    Leads (Ages view known components S) x s
  after : ∀ s, (view s).Sound → known.Extends (view s).registry → ∀ r ∈ R s, r.draft.Sound ∧
    Aging components Rendering.All (r.after components) (view (exec x s).2)

variable {view known}

theorem Quiet.bind {x : Work σ α} {f : α → Work σ β} (hx : Quiet view known components x)
    (hf : ∀ a, Quiet view known components (f a)) : Quiet view known components (x >>= f) :=
  fun S ↦ (hx S).bind fun a ↦ hf a S

theorem Quiet.pure (a : α) : Quiet view known components (Pure.pure a : Work σ α) :=
  fun _ ↦ Respects.pure a

theorem Quiet.throw (fault : Fault) : Quiet view known components (throw fault : Work σ α) :=
  fun _ ↦ Respects.throw fault

theorem Quiet.lift (e : Except Fault α) : Quiet view known components (liftM e : Work σ α) :=
  fun _ ↦ Respects.lift e

theorem Quiet.get : Quiet view known components (MonadState.get : Work σ σ) := fun _ ↦ Respects.get

theorem Quiet.modify {f : σ → σ} (h : ∀ s, view (f s) = view s) :
    Quiet view known components (modify f : Work σ Unit) := by
  intro S
  apply Respects.modify
  intro s hsound _
  rw [h]
  exact .refl hsound

namespace Starts

theorem quiet {x : Work σ α} (h : Quiet view known components x) :
    Starts view known components x .none where
  ages _ s _ := h _ s
  after _ _ _ _ hr := absurd hr List.not_mem_nil

theorem aging {x : Work σ α} {R : Sites σ} (h : Starts view known components x R) {s : σ}
    (hsound : (view s).Sound) (hknown : known.Extends (view s).registry) :
    Aging components Rendering.All (view s) (view (exec x s).2) :=
  h.ages Rendering.closed_all s (fun _ _ ↦ trivial) hsound hknown

/-- The renderings by which the draft ages meet sound drafts, and what they leave is known in the
end. -/
theorem aging_within {x : Work σ α} {R : Sites σ} (h : Starts view known components x R)
    (hS : Rendering.Closed components S) {s : σ} (hsound : (view s).Sound)
    (hknown : known.Extends (view s).registry) (hR : ∀ r ∈ R s, S r) :
    Aging components (Rendering.Within components S (view (exec x s).2)) (view s)
      (view (exec x s).2) := by
  refine h.ages ?_ s (fun r hr ↦ ?_) hsound hknown
  · rintro r r' ⟨hr, hdraft, hafter⟩ hcall
    exact ⟨hS r r' hr hcall, (hcall.grows_before hdraft).sound,
      (hcall.growth_after hdraft).registry.trans hafter⟩
  · obtain ⟨hdraft, hafter⟩ := h.after s hsound hknown r hr
    exact ⟨hR r hr, hdraft, hafter.registry⟩

/-- The sites in two steps are those in the first one and those in the second one. -/
theorem bind {x : Work σ α} {f : α → Work σ β} {R : Sites σ} {R' : α → Sites σ}
    (hx : Starts view known components x R) (hf : ∀ a, Starts view known components (f a) (R' a)) :
    Starts view known components (x >>= f) (R.or (.next x R')) where
  ages hS s hR := by
    obtain ⟨hfirst, hrest⟩ := List.forall_mem_append.1 hR
    apply (hx.ages hS s hfirst).bind
    intro a t ht
    rw [Sites.next_of_ok ht] at hrest
    exact (hf a).ages hS t hrest
  after s hsound hknown r hr := by
    have hmid := hx.aging hsound hknown
    have hmidKnown := hknown.trans hmid.registry
    rcases List.mem_append.1 hr with hfirst | hrest
    · obtain ⟨hdraft, hafter⟩ := hx.after s hsound hknown r hfirst
      refine ⟨hdraft, hafter.trans ?_⟩
      have hrest : ∀ a, Respects (Ages view known components Rendering.All) (f a) :=
        fun a t ↦ (hf a).ages Rendering.closed_all t fun _ _ ↦ trivial
      exact Respects.after hrest x s hmid.sound hmidKnown
    · obtain ⟨a, t, ht, hrest⟩ := Sites.mem_next.1 hrest
      rw [ht] at hmid hmidKnown
      rw [exec_bind_of_ok ht]
      exact (hf a).after t hmid.sound hmidKnown r hrest

theorem congr {x : Work σ α} {R R' : Sites σ} (h : Starts view known components x R)
    (hR : ∀ s r, r ∈ R s ↔ r ∈ R' s) : Starts view known components x R' where
  ages hS s hR' := h.ages hS s fun r hr ↦ hR' r ((hR s r).1 hr)
  after s hsound hknown r hr := h.after s hsound hknown r ((hR s r).2 hr)

/-- A quiet second step has no sites. -/
theorem first {x : Work σ α} {f : α → Work σ β} {R : Sites σ} (hx : Starts view known components x R)
    (hf : ∀ a, Quiet view known components (f a)) : Starts view known components (x >>= f) R := by
  apply (hx.bind fun a ↦ quiet (hf a)).congr
  intro s r
  simp [Sites.or, Sites.mem_next, Sites.none]

/-- A quiet first step has no sites. -/
theorem next {x : Work σ α} {f : α → Work σ β} {R' : α → Sites σ} (hx : Quiet view known components x)
    (hf : ∀ a, Starts view known components (f a) (R' a)) :
    Starts view known components (x >>= f) (.next x R') :=
  (quiet hx).bind hf

/-- Work that is quiet once it has failed has no sites after its failure. -/
theorem recover {x : Work σ α} {f : Fault → Work σ α} {R : Sites σ}
    (hx : Starts view known components x R) (hf : ∀ fault, Quiet view known components (f fault)) :
    Starts view known components (tryCatch x f) R where
  ages hS s hR := (hx.ages hS s hR).catch fun fault t _ ↦ hf fault _ t
  after s hsound hknown r hr := by
    have hmid := hx.aging hsound hknown
    have hmidKnown := hknown.trans hmid.registry
    obtain ⟨hdraft, hafter⟩ := hx.after s hsound hknown r hr
    refine ⟨hdraft, hafter.trans ?_⟩
    rw [exec_catch]
    rcases hexec : exec x s with ⟨fault | a, t⟩
    · rw [hexec] at hmid hmidKnown
      exact hf fault _ t hmid.sound hmidKnown
    · rw [hexec] at hmid
      exact .refl hmid.sound

end Starts

end

/-! ## Drafting -/

namespace Drafting

variable {known : Name.Registry}

/-- A rendering is its own site. -/
theorem starts_render (e : TypeExpr) (raw : String) :
    Starts id known components (render components e raw) (fun d ↦ [⟨d, e, raw⟩]) where
  ages hS d hR hsound _ :=
    (Rendering.leads_work hS ⟨d, e, raw⟩ (hR _ (List.mem_singleton_self _)) hsound).aging
  after d hsound _ r hr := by
    obtain rfl := List.mem_singleton.1 hr
    exact ⟨hsound, .refl (Rendering.leads_work Rendering.closed_all _ trivial hsound).sound⟩

theorem quiet_of_grows {α : Type} {x : Drafting α} (h : ∀ S, Respects (Grows components S) x) :
    Quiet id known components x := fun S d hsound _ ↦ (h S d hsound).aging

theorem quiet_identify (raw : String) : Quiet id known components (identify raw) :=
  quiet_of_grows fun _ ↦ grows_identify raw

/-- The name of a raw name is known to what follows its identification. -/
theorem starts_identify_bind {α : Type} {raw : String} {f : String → Drafting α}
    {R : String → Sites Draft}
    (hf : ∀ {known name}, known.identifier? raw = some name →
      Starts id known components (f name) (R name)) :
    Starts id known components (identify raw >>= f) (.next (identify raw) R) where
  ages hS d hR := by
    have hname := Name.Registry.identifier?_resolve_self d.registry raw
    rw [Sites.next_of_ok (exec_identify raw d)] at hR
    apply (quiet_identify raw _ d).bind
    intro name d' hd'
    rw [exec_identify, Prod.mk.injEq, Except.ok.injEq] at hd'
    obtain ⟨rfl, rfl⟩ := hd'
    have hrest := (hf hname).ages hS _ hR
    exact fun hsound _ ↦ hrest hsound (.refl _)
  after d hsound hknown r hr := by
    have hname := Name.Registry.identifier?_resolve_self d.registry raw
    have hmid : Aging components Rendering.All d _ :=
      (quiet_identify raw Rendering.All).of_exec (exec_identify raw d) hsound hknown
    rw [Sites.next_of_ok (exec_identify raw d)] at hr
    rw [exec_bind_of_ok (exec_identify raw d)]
    exact (hf hname).after _ hmid.sound (.refl _) r hr

theorem quiet_typeOf (s : Schema) : Quiet id known components (typeOf s) :=
  quiet_of_grows fun _ ↦ grows_typeOf s

theorem quiet_report (x : Diagnostic) : Quiet id known components (report x) :=
  quiet_of_grows fun _ ↦ grows_report x

theorem quiet_follow {α : Type} (w : Walk α) : Quiet id known components (follow w) :=
  quiet_of_grows fun _ ↦ grows_follow w

/-- An alias may be declared under the known name of a component. -/
theorem quiet_declare_synonym {raw name : String} (hcomponent : raw ∈ components.map (·.1))
    (hraw : known.identifier? raw = some name) (hint : String) :
    Quiet id known components (declare (.synonym name hint)) :=
  fun _ _ h hknown ↦ Aging.ofSynonym h hcomponent (hknown.assigned hraw) hint

end Drafting

end ApiClient

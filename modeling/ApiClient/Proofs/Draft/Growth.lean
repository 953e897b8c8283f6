import ApiClient.Draft
import ApiClient.Proofs.Declaration
import ApiClient.Proofs.Name.Registry
import ApiClient.Proofs.Work

/-!
# Growth of a draft

What is declared while types are rendered stays declared, and everything new is a class that some
rendering declared under the identifier of its raw name. When components are declared an alias may
still replace what stands under its name; it is never replaced by a class.
-/

namespace ApiClient

open Work

/-- Identifiers are assigned soundly, and no name is declared twice. -/
structure Draft.Sound (d : Draft) : Prop where
  registry : d.registry.Sound
  names : (List.map (·.name) d.declarations).Nodup

/-- A call of the renderer: the draft that it meets, a type, and the raw name for its class. -/
structure Rendering where
  draft : Draft
  type : TypeExpr
  raw : String

namespace Rendering

variable (components : Components)

/-- The work of a rendering. -/
def work (r : Rendering) : Drafting String := Drafting.render components r.type r.raw

/-- The draft that a rendering leaves. -/
def after (r : Rendering) : Draft := (exec (r.work components) r.draft).2

/-- A rendering declares a class if the class stands under the identifier of its raw name when it
ends, and nothing did before. -/
structure Declares (r : Rendering) (c : RecordClass) : Prop where
  fresh : r.draft.declarations.find? c.name = none
  declared : (r.after components).declarations.find? c.name = some (.record c)
  named : (r.after components).registry.identifier? r.raw = some c.name

end Rendering

namespace Draft

variable {components : Components} {S : Rendering → Prop}

/-- How a draft grows by renderings of a set. -/
structure Growth (components : Components) (S : Rendering → Prop) (d d' : Draft) : Prop where
  sound : d'.Sound
  registry : d.registry.Extends d'.registry
  kept : ∀ {name x}, d.declarations.find? name = some x → d'.declarations.find? name = some x
  new : ∀ {name x}, d.declarations.find? name = none → d'.declarations.find? name = some x →
    ∃ r c, S r ∧ r.Declares components c ∧ x = .record c ∧
      d'.registry.identifier? r.raw = some name

/-- A sound draft grows into the other one. -/
def Grows (components : Components) (S : Rendering → Prop) (d d' : Draft) : Prop :=
  d.Sound → Growth components S d d'

theorem Growth.refl {d : Draft} (h : d.Sound) : Growth components S d d where
  sound := h
  registry := .refl _
  kept hname := hname
  new hnone hname := by simp [hnone] at hname

theorem Growth.trans {d d' d'' : Draft} (h : Growth components S d d')
    (h' : Growth components S d' d'') : Growth components S d d'' where
  sound := h'.sound
  registry := h.registry.trans h'.registry
  kept hname := h'.kept (h.kept hname)
  new {name x} hnone hname := by
    cases hmid : d'.declarations.find? name with
    | none => exact h'.new hmid hname
    | some y =>
      have hsame : y = x := by
        simpa [h'.kept hmid] using hname
      obtain ⟨r, c, hr, hdeclares, hy, hraw⟩ := h.new hnone hmid
      exact ⟨r, c, hr, hdeclares, hsame ▸ hy, h'.registry.assigned hraw⟩

theorem Growth.mono {S' : Rendering → Prop} (hS : ∀ r, S r → S' r) {d d' : Draft}
    (h : Growth components S d d') : Growth components S' d d' where
  sound := h.sound
  registry := h.registry
  kept := h.kept
  new hnone hname := by
    obtain ⟨r, c, hr, hrest⟩ := h.new hnone hname
    exact ⟨r, c, hS r hr, hrest⟩

instance : IsPreorder Draft (Grows components S) where
  refl _ h := .refl h
  trans _ _ _ h h' hsound := (h hsound).trans (h' (h hsound).sound)

/-- A name is not declared by renderings under other raw names. -/
theorem Growth.find?_eq_none {d d' : Draft} (h : Growth components S d d') {raw name : String}
    (hraw : d.registry.identifier? raw = some name) (hS : ∀ r, S r → r.raw ≠ raw)
    (hnone : d.declarations.find? name = none) : d'.declarations.find? name = none := by
  by_contra hsome
  obtain ⟨x, hx⟩ := Option.ne_none_iff_exists'.1 hsome
  obtain ⟨r, c, hr, -, -, hname⟩ := h.new hnone hx
  exact hS r hr (h.sound.registry.injective hname (h.registry.assigned hraw))

/-- Names and remarks do not touch what is declared. -/
theorem Growth.ofRegistry {d : Draft} (h : d.Sound) {registry : Name.Registry}
    (hsound : registry.Sound) (hextends : d.registry.Extends registry)
    (diagnostics : List Diagnostic) :
    Growth components S d { d with registry, diagnostics } where
  sound := ⟨hsound, h.names⟩
  registry := hextends
  kept hname := hname
  new hnone hname := by
    change d.declarations.find? _ = _ at hname
    simp [hnone] at hname

/-- A class that is declared where nothing stands. -/
theorem Growth.ofClass {d : Draft} (h : d.Sound) {c : RecordClass}
    (hfresh : d.declarations.find? c.name = none) {r : Rendering} (hr : S r)
    (hdeclares : r.Declares components c) (hraw : d.registry.identifier? r.raw = some c.name)
    (diagnostics : List Diagnostic) :
    Growth components S d
      { d with diagnostics, declarations := d.declarations.put (.record c) } where
  sound := ⟨h.registry, Declarations.nodup_name_put h.names _⟩
  registry := .refl _
  kept {name x} hname := by
    have hother : c.name ≠ name := by
      rintro rfl
      simp [hfresh] at hname
    rw [Declarations.find?_put, Declaration.name, if_neg hother, hname]
  new {name x} hnone hname := by
    rw [Declarations.find?_put, Declaration.name] at hname
    split at hname
    · next hsame =>
      subst hsame
      exact ⟨r, c, hr, hdeclares, (Option.some.inj hname).symm, hraw⟩
    · simp [hnone] at hname

end Draft

namespace Drafting

open Draft

variable {components : Components} {S : Rendering → Prop}

theorem exec_identify (raw : String) (d : Draft) :
    exec (identify raw) d =
      (.ok (d.registry.resolve raw).1, { d with registry := (d.registry.resolve raw).2 }) := rfl

theorem grows_identify (raw : String) : Respects (Grows components S) (identify raw) :=
  fun d h ↦ .ofRegistry h (h.registry.resolve raw) (Name.Registry.extends_resolve _ raw)
    d.diagnostics

theorem grows_typeOf (s : Schema) : Respects (Grows components S) (typeOf s) :=
  fun d h ↦ .ofRegistry h (h.registry.resolveAll _) (Name.Registry.extends_resolveAll _ _)
    d.diagnostics

theorem grows_report (x : Diagnostic) : Respects (Grows components S) (report x) :=
  fun _ h ↦ .ofRegistry h h.registry (.refl _) _

theorem grows_follow {α : Type} (w : Walk α) : Respects (Grows components S) (follow w) := by
  unfold follow
  apply Respects.bind
  · intro d h
    exact .ofRegistry h (h.registry.resolveAll w.met) (Name.Registry.extends_resolveAll _ _)
      d.diagnostics
  · intro _
    cases w.outcome with
    | error chain => exact Respects.throw _
    | ok a => exact Respects.pure a

theorem grows_basesOf (raws bases : List String) :
    Respects (Grows components S) (basesOf components raws bases) := by
  induction raws generalizing bases with
  | nil => exact Respects.pure bases
  | cons raw raws ih =>
    unfold basesOf
    apply (grows_follow _).bind
    intro base
    cases base with
    | none => exact ih bases
    | some root => exact (grows_identify root).bind fun _ ↦ ih _

/-- Two drafts with the same declarations. -/
def SameDeclarations (d d' : Draft) : Prop := d'.declarations = d.declarations

instance : IsPreorder Draft SameDeclarations where
  refl _ := rfl
  trans _ _ _ h h' := h'.trans h

theorem sameDeclarations_follow {α : Type} (w : Walk α) : Respects SameDeclarations (follow w) := by
  unfold follow
  apply Respects.bind
  · intro d
    rfl
  · intro _
    cases w.outcome with
    | error chain => exact Respects.throw _
    | ok a => exact Respects.pure a

theorem sameDeclarations_basesOf (components : Components) (raws bases : List String) :
    Respects SameDeclarations (basesOf components raws bases) := by
  induction raws generalizing bases with
  | nil => exact Respects.pure bases
  | cons raw raws ih =>
    unfold basesOf
    apply (sameDeclarations_follow _).bind
    intro base
    cases base with
    | none => exact ih bases
    | some root =>
      have hidentify : Respects SameDeclarations (identify root) := fun d ↦ rfl
      exact hidentify.bind fun _ ↦ ih _

end Drafting

end ApiClient

import ApiClient.Proofs.Composition

/-!
# Bases of a class

A class that a rendering declares was opened by it: what is rendered within has longer raw names
and declares other classes. If the class has bases, then it is that of an intersection of records,
and each base is the identifier of a component that a reference among the members stands for.
-/

namespace ApiClient

open Work Draft Drafting

variable {components : Components}

namespace Drafting

theorem exec_follow_of_ok {α : Type} {w : Walk α} {a : α} (h : w.outcome = .ok a) (d : Draft) :
    exec (follow w) d = (.ok a, { d with registry := d.registry.resolveAll w.met }) := by
  unfold follow
  rw [exec_modify_bind, h]
  rfl

theorem exec_follow_of_error {α : Type} {w : Walk α} {chain : List String}
    (h : w.outcome = .error chain) (d : Draft) :
    exec (follow w) d = (.error (.recursiveSchema chain),
      { d with registry := d.registry.resolveAll w.met }) := by
  unfold follow
  rw [exec_modify_bind, h]
  rfl

/-- A walk that is followed to its end has succeeded. -/
theorem outcome_of_follow {α : Type} {w : Walk α} {a : α} {d d' : Draft}
    (h : exec (follow w) d = (.ok a, d')) : w.outcome = .ok a := by
  cases hw : w.outcome with
  | error chain =>
    rw [exec_follow_of_error hw] at h
    cases h
  | ok a' =>
    rw [exec_follow_of_ok hw] at h
    cases h
    rfl

/-- The bases that are added are the identifiers of the records that the references stand for. -/
theorem mem_basesOf_iff {raws bases out : List String} {d d' : Draft} (hsound : d.Sound)
    (h : exec (basesOf components raws bases) d = (.ok out, d')) {registry : Name.Registry}
    (hregistry : d'.registry.Extends registry) (base : String) :
    base ∈ out ↔ base ∈ bases ∨ ∃ raw ∈ raws, ∃ root,
      (components.recordBase [] raw).outcome = .ok (some root) ∧
        registry.identifier? root = some base := by
  induction raws generalizing bases d with
  | nil =>
    unfold basesOf at h
    obtain ⟨rfl, -⟩ := exec_pure_eq_ok.1 h
    simp
  | cons raw raws ih =>
    unfold basesOf at h
    obtain ⟨r, d₁, hfollow, h⟩ := of_exec_bind h
    have hwalk := outcome_of_follow hfollow
    have hfollowed : Grows components Rendering.All _ _ := (grows_follow _).of_exec hfollow
    have hgrown₁ := hfollowed hsound
    simp only [List.mem_cons, exists_eq_or_imp, hwalk]
    cases r with
    | none =>
      rw [ih hgrown₁.sound h]
      simp
    | some root =>
      simp only at h
      rw [exec_bind_of_ok (exec_identify root d₁)] at h
      have hidentified : Grows components Rendering.All _ _ :=
        (grows_identify root).of_exec (exec_identify root d₁)
      have hgrown₂ := hidentified hgrown₁.sound
      have hgrown₃ := (grows_basesOf (S := Rendering.All) raws _).of_exec h hgrown₂.sound
      have hnamed : registry.identifier? root = some (d₁.registry.resolve root).1 :=
        (hgrown₃.registry.trans hregistry).assigned
          (Name.Registry.identifier?_resolve_self d₁.registry root)
      have hadded : base ∈ (if bases.contains (d₁.registry.resolve root).1 then bases
          else bases ++ [(d₁.registry.resolve root).1]) ↔
          base ∈ bases ∨ base = (d₁.registry.resolve root).1 := by
        split
        · next hcontains =>
          rw [List.contains_iff_mem] at hcontains
          exact ⟨.inl, fun hor ↦ hor.elim id fun heq ↦ heq ▸ hcontains⟩
        · rw [List.mem_append, List.mem_singleton]
      rw [ih hgrown₂.sound h, hadded, or_assoc]
      simp [hnamed, eq_comm]

end Drafting

namespace Rendering

variable {r : Rendering} {c : RecordClass}

/-- A rendering that opens no class only declares what is rendered within it. -/
theorem growth_of_not_opens (hsound : r.draft.Sound)
    (h : ∀ d fields bases extra, ¬ Opens components r d fields bases extra) :
    Growth components (Longer All r.raw.length) r.draft (r.after components) := by
  have hclosed : Closed components (Longer All r.raw.length) := closed_all.longer _
  refine (show Leads (Grows components (Longer All r.raw.length)) (r.work components) r.draft from
    ?_) hsound
  rw [work_eq]
  cases hshape : r.type.collapse with
  | literal choices =>
    have hliterals : Respects (Grows components (Longer All r.raw.length))
        (choices.mapM fun v ↦ (liftM v.literal? : Drafting String)) :=
      Respects.mapM (fun v ↦ Respects.lift _) choices
    exact (hliterals _).bind fun _ _ _ ↦ Respects.pure _ _
  | sequence element =>
    have hcall : Calls components r ⟨r.draft, element, r.raw ++ " item"⟩ := .item hshape
    have helement := leads_work hclosed ⟨r.draft, element, r.raw ++ " item"⟩
      ⟨trivial, hcall.length_lt⟩
    exact helement.bind fun _ _ _ ↦ Respects.pure _ _
  | union members =>
    exact leads_renderUnion hclosed members r.raw 1 [] r.draft
      fun hmeets ↦ ⟨trivial, (Calls.option hshape hmeets).length_lt⟩
  | record fields extra =>
    cases fields with
    | nil =>
      have hextra := leads_renderExtra hclosed extra (r.raw ++ " value") r.draft
        fun e _ ↦ longer_value r.raw r.draft e
      exact hextra.bind fun _ _ _ ↦ Respects.pure _ _
    | cons f fields => exact absurd (.record hshape) (h _ _ _ _)
  | intersection members =>
    apply (grows_follow _ r.draft).bind
    intro isRecord d hrecord
    cases isRecord with
    | false => exact (grows_report _ d).bind fun _ _ _ ↦ Respects.pure _ _
    | true =>
      apply (grows_basesOf _ _ d).bind
      intro bases d' hbases
      exact absurd (.intersection hshape hrecord hbases) (h _ _ _ _)
  | _ => exact Respects.pure _ _

/-- A rendering that declares a class has opened it. -/
theorem Declares.exists_opens (hsound : r.draft.Sound) (h : r.Declares components c) :
    ∃ d fields bases extra, Opens components r d fields bases extra := by
  by_contra! hnone
  have hgrown := growth_of_not_opens hsound hnone
  obtain ⟨r', c', hr', -, -, hraw⟩ := hgrown.new h.fresh h.declared
  exact hr'.raw_ne (hgrown.sound.registry.injective hraw h.named)

/-- What a rendering opens a class from grows into what it leaves. -/
theorem Opens.growth_after {d : Draft} {fields : List (Field TypeExpr)} {bases : List String}
    {extra : Option TypeExpr} (h : Opens components r d fields bases extra)
    (hsound : r.draft.Sound) : Growth components All d (r.after components) := by
  have hwork := leads_declareRecord closed_all r trivial h (h.sound hsound)
  rwa [← h.exec_eq] at hwork

/-- A class is opened with the fields that its type is composed of. -/
theorem Opens.fields_eq {d : Draft} {fields : List (Field TypeExpr)} {bases : List String}
    {extra : Option TypeExpr} (h : Opens components r d fields bases extra) :
    fields = r.type.collapse.fields := by
  cases h with
  | record hshape => simp [hshape, TypeExpr.fields, TypeExpr.leaves, TypeExpr.ownFields]
  | intersection hshape => rw [hshape, Contribution.fields_ofMembers]

/-- A class is opened with the records as bases that the references stand for that its type is
composed of. -/
theorem Opens.mem_bases_iff {d : Draft} {fields : List (Field TypeExpr)} {bases : List String}
    {extra : Option TypeExpr} (h : Opens components r d fields bases extra)
    (hsound : r.draft.Sound) {registry : Name.Registry} (hregistry : d.registry.Extends registry)
    (base : String) :
    base ∈ bases ↔ ∃ reference ∈ r.type.collapse.parents, ∃ root,
      (components.recordBase [] reference).outcome = .ok (some root) ∧
        registry.identifier? root = some base := by
  cases h with
  | record hshape => simp [hshape, TypeExpr.parents, TypeExpr.leaves, TypeExpr.reference?]
  | intersection hshape hrecord hbases =>
    have hfollowed : Grows components All _ _ := (grows_follow _).of_exec hrecord
    rw [mem_basesOf_iff (hfollowed hsound).sound hbases hregistry, hshape,
      Contribution.references_ofMembers, or_iff_right List.not_mem_nil]

/-- A base of a class is the identifier of a component that a reference among the members of an
intersection of records stands for. -/
theorem Declares.exists_root (hsound : r.draft.Sound) (h : r.Declares components c)
    {base : String} (hbase : base ∈ c.bases) :
    ∃ members reference root, r.type.collapse = .intersection members ∧
      (components.isRecord [] (.intersection members)).outcome = .ok true ∧
      reference ∈ (Contribution.ofMembers members).references ∧
      (components.recordBase [] reference).outcome = .ok (some root) ∧
      (r.after components).registry.identifier? root = some base := by
  obtain ⟨d, fields, bases, extra, hopens⟩ := h.exists_opens hsound
  have hbase : base ∈ bases := by
    rcases (hopens.of_declares hsound h).2 with hsame | hnone
    · rwa [← hsame]
    · rw [hnone] at hbase
      cases hbase
  have hafter := hopens.growth_after hsound
  cases hopens with
  | record hshape => cases hbase
  | intersection hshape hrecord hbases =>
    have hfollowed : Grows components All _ _ := (grows_follow _).of_exec hrecord
    obtain ⟨reference, hmem, root, hwalk, hnamed⟩ :=
      ((mem_basesOf_iff (hfollowed hsound).sound hbases hafter.registry base).1 hbase).resolve_left
        List.not_mem_nil
    exact ⟨_, reference, root, hshape, outcome_of_follow hrecord, hmem, hwalk, hnamed⟩

end Rendering

end ApiClient

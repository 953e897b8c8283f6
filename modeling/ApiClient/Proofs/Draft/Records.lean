import ApiClient.Proofs.Draft.Rendering

/-!
# Classes of records

A rendering that declares the class of a record gives it the fields of the record and no bases. A
rendering that does not declare the class returns the name that its raw name has, whatever stands
under it.
-/

namespace ApiClient

open Work Draft Drafting

/-- The name of a field and whether it is required. -/
def Field.key {α : Type} (f : Field α) : Value × Bool := (f.name, f.required)

/-- Adds a key. A later key of the same name replaces an earlier one in its place. -/
def putKey (keys : List (Value × Bool)) (key : Value × Bool) : List (Value × Bool) :=
  if keys.any (·.1.same key.1) then keys.map fun k ↦ if k.1.same key.1 then key else k
  else keys ++ [key]

/-- The keys of fields, of which those of the same name are one. -/
def keysOf {α : Type} (fields : List (Field α)) : List (Value × Bool) :=
  (fields.map Field.key).foldl putKey []

theorem foldl_putKey_of_pairwise {new keys : List (Value × Bool)}
    (h : (keys ++ new).Pairwise fun k k' ↦ k.1.same k'.1 = false) :
    new.foldl putKey keys = keys ++ new := by
  induction new generalizing keys with
  | nil => rw [List.foldl_nil, List.append_nil]
  | cons key new ih =>
    have hfresh : keys.any (·.1.same key.1) = false := by
      rw [List.any_eq_false]
      intro k hk
      rw [Bool.not_eq_true]
      exact (List.pairwise_append.1 h).2.2 k hk key List.mem_cons_self
    have hput : putKey keys key = keys ++ [key] := by
      rw [putKey, hfresh]
      rfl
    rw [List.foldl_cons, hput, ih, List.append_assoc, List.singleton_append]
    rwa [List.append_assoc, List.singleton_append]

/-- Fields of different names have their own keys. -/
theorem keysOf_eq_map {α : Type} {fields : List (Field α)}
    (h : fields.Pairwise fun f g ↦ f.name.same g.name = false) :
    keysOf fields = fields.map Field.key := by
  unfold keysOf
  rw [foldl_putKey_of_pairwise, List.nil_append]
  rw [List.nil_append, List.pairwise_map]
  exact h

theorem map_key_ofFields (identify : String → String) (properties : List (Field Schema)) :
    (TypeExpr.ofFields identify properties).map Field.key = properties.map Field.key := by
  induction properties with
  | nil => rfl
  | cons p properties ih =>
    rw [TypeExpr.ofFields, List.map_cons, List.map_cons, ih]
    rfl

namespace Rendering

variable {components : Components}

theorem map_key_putField (fields : List (Field String)) (f : Field String) :
    (putField fields f).map Field.key = putKey (fields.map Field.key) f.key := by
  have hany : (fields.map Field.key).any (·.1.same f.key.1) = fields.any (·.name.same f.name) := by
    rw [List.any_map]
    rfl
  unfold putField putKey
  rw [hany]
  split
  · rw [List.map_map, List.map_map]
    apply List.map_congr_left
    intro g _
    by_cases hsame : g.name.same f.name = true
    · simp only [Function.comp_apply, Field.key, hsame, if_true]
    · simp only [Function.comp_apply, Field.key, hsame, Bool.false_eq_true, if_false]
  · rw [List.map_append, List.map_singleton]

/-- The rendered fields of a class have the keys of its fields. -/
theorem keys_renderFields {raw : String} {fields : List (Field TypeExpr)}
    {rendered out : List (Field String)} {d d' : Draft}
    (h : exec (renderFields components raw fields rendered) d = (.ok out, d')) :
    out.map Field.key = (fields.map Field.key).foldl putKey (rendered.map Field.key) := by
  induction fields generalizing rendered d with
  | nil =>
    rw [renderFields] at h
    obtain ⟨rfl, -⟩ := exec_pure_eq_ok.1 h
    rfl
  | cons f fields ih =>
    rw [renderFields] at h
    obtain ⟨plain, -, h⟩ := of_exec_lift_bind h
    obtain ⟨hint, d₁, -, h⟩ := of_exec_bind h
    rw [ih h, map_key_putField]
    rfl

section

variable {r : Rendering} {d : Draft} {fields : List (Field TypeExpr)} {bases : List String}
  {extra : Option TypeExpr}

theorem Opens.sound (h : Opens components r d fields bases extra) (hsound : r.draft.Sound) :
    d.Sound := (h.grows hsound).sound

theorem Opens.exec_of_contains (h : Opens components r d fields bases extra)
    (hcontains : d.declarations.contains (d.registry.resolve r.raw).1 = true) :
    exec (r.work components) r.draft =
      (.ok (d.registry.resolve r.raw).1, d.identified r.raw) := by
  rw [h.exec_eq, exec_declareRecord_of_contains hcontains]

/-- Where nothing stands under the name, the rendering fails with nothing there, or it declares the
class with the rendered fields. -/
theorem Opens.exec_of_fresh (h : Opens components r d fields bases extra) (hsound : d.Sound)
    (hcontains : d.declarations.contains (d.registry.resolve r.raw).1 = false) :
    (∃ fault d', exec (r.work components) r.draft = (.error fault, d') ∧
      Growth components (Longer All r.raw.length) (d.identified r.raw) d') ∨
    ∃ d₂ d₃ diagnostics, ∃ c : RecordClass,
      exec (renderFields components r.raw fields []) (d.identified r.raw) = (.ok c.fields, d₂) ∧
      exec (renderExtra components extra (r.raw ++ " value")) d₂ = (.ok c.extra, d₃) ∧
      Growth components (Longer All r.raw.length) (d.identified r.raw) d₃ ∧
      c.name = (d.registry.resolve r.raw).1 ∧
      (c.bases = bases ∨ c.bases = [] ∧ diagnostics ≠ []) ∧
      exec (r.work components) r.draft = (.ok (d.registry.resolve r.raw).1,
        { d₃ with diagnostics, declarations := d₃.declarations.put (.record c) }) := by
  have hgrown₂ : Growth components (Longer All r.raw.length) (d.identified r.raw)
      (exec (renderFields components r.raw fields []) (d.identified r.raw)).2 :=
    growth_longer_fields hsound r.raw fields
  rw [h.exec_eq, exec_declareRecord_of_fresh hcontains]
  rcases hd₂ : exec (renderFields components r.raw fields []) (d.identified r.raw)
    with ⟨fault | rendered, d₂⟩
  · rw [hd₂] at hgrown₂
    exact .inl ⟨fault, d₂, exec_bind_of_error hd₂ _, hgrown₂⟩
  rw [hd₂] at hgrown₂
  have hgrown₃ : Growth components (Longer All r.raw.length) (d.identified r.raw)
      (exec (renderExtra components extra (r.raw ++ " value")) d₂).2 :=
    growth_longer_extra hsound hd₂
  rw [exec_bind_of_ok hd₂]
  rcases hd₃ : exec (renderExtra components extra (r.raw ++ " value")) d₂
    with ⟨fault | extra', d₃⟩
  · rw [hd₃] at hgrown₃
    exact .inl ⟨fault, d₃, exec_bind_of_error hd₃ _, hgrown₃⟩
  rw [hd₃] at hgrown₃
  rw [exec_bind_of_ok hd₃]
  obtain ⟨fault, hfailed⟩ | ⟨bases', diagnostics, hbases, hdeclared⟩ := declareClass_cases r.raw
    { name := (d.registry.resolve r.raw).1, fields := rendered, bases, extra := extra' } d₃
  · exact .inl ⟨fault, d₃, exec_bind_of_error hfailed _, hgrown₃⟩
  · exact .inr ⟨d₂, d₃, diagnostics, _, rfl, hd₃, hgrown₃, rfl, hbases,
      exec_bind_of_ok hdeclared _⟩

/-- A rendering that declares a class has rendered its fields and further values, and left its bases
out only with a remark. -/
theorem Opens.exec_of_declares (h : Opens components r d fields bases extra)
    (hsound : r.draft.Sound) {c : RecordClass} (hdeclares : r.Declares components c) :
    d.declarations.contains (d.registry.resolve r.raw).1 = false ∧ ∃ d₂ d₃,
      exec (renderFields components r.raw fields []) (d.identified r.raw) = (.ok c.fields, d₂) ∧
      exec (renderExtra components extra (r.raw ++ " value")) d₂ = (.ok c.extra, d₃) ∧
      (c.bases = bases ∨ c.bases = [] ∧ (r.after components).diagnostics ≠ []) := by
  have hraw := identifier?_identified d r.raw
  have hdeclared := hdeclares.declared
  have hnamed := hdeclares.named
  have hfreshClass : d.declarations.find? c.name = none := by
    rw [h.sameDeclarations]
    exact hdeclares.fresh
  unfold after at hdeclared hnamed ⊢
  cases hcontains : d.declarations.contains (d.registry.resolve r.raw).1 with
  | true =>
    rw [h.exec_of_contains hcontains] at hdeclared
    exact absurd (hfreshClass.symm.trans hdeclared) (Option.some_ne_none _).symm
  | false =>
    have hfresh := Declarations.find?_eq_none_of_contains hcontains
    obtain ⟨fault, d', hexec, hgrown⟩ | ⟨d₂, d₃, diagnostics, c', hd₂, hd₃, hgrown, hname, hbases,
      hexec⟩ := h.exec_of_fresh (h.sound hsound) hcontains
    · -- A rendering that fails leaves nothing under the name.
      rw [hexec] at hdeclared hnamed
      have hsame := hnamed.symm.trans (hgrown.registry.assigned hraw)
      have hnone := hgrown.find?_eq_none hraw (fun r' hr' ↦ hr'.raw_ne) hfresh
      rw [← Option.some.inj hsame, hdeclared] at hnone
      cases hnone
    · rw [hexec] at hdeclared hnamed ⊢
      have hsame := hnamed.symm.trans (hgrown.registry.assigned hraw)
      have hput := (Declarations.find?_put d₃.declarations (.record c') c.name).symm.trans hdeclared
      rw [Declaration.name, hname, Option.some.inj hsame, if_pos rfl] at hput
      obtain rfl : c' = c := by
        injection Option.some.inj hput
      exact ⟨rfl, d₂, d₃, hd₂, hd₃, hbases⟩

/-- A rendering that opens a class declares it with the rendered fields, perhaps without bases. -/
theorem Opens.of_declares (h : Opens components r d fields bases extra) (hsound : r.draft.Sound)
    {c : RecordClass} (hdeclares : r.Declares components c) :
    c.fields.map Field.key = keysOf fields ∧ (c.bases = bases ∨ c.bases = []) := by
  obtain ⟨-, d₂, d₃, hd₂, -, hbases⟩ := h.exec_of_declares hsound hdeclares
  exact ⟨keys_renderFields hd₂, hbases.imp_right And.left⟩

/-- A rendering that opens a class returns the name that its raw name has, under which something
stands. -/
theorem Opens.of_hint (h : Opens components r d fields bases extra) (hsound : r.draft.Sound)
    {hint : String} {d' : Draft} (hexec : exec (r.work components) r.draft = (.ok hint, d')) :
    d'.registry.identifier? r.raw = some hint ∧ (d'.declarations.find? hint).isSome := by
  have hraw := identifier?_identified d r.raw
  cases hcontains : d.declarations.contains (d.registry.resolve r.raw).1 with
  | true =>
    rw [h.exec_of_contains hcontains, Prod.mk.injEq, Except.ok.injEq] at hexec
    obtain ⟨rfl, rfl⟩ := hexec
    refine ⟨hraw, ?_⟩
    rwa [Declarations.contains_eq] at hcontains
  | false =>
    obtain ⟨fault, d', hfailed, -⟩ | ⟨d₂, d₃, diagnostics, c, -, -, hgrown, hname, -, hdeclared⟩ :=
      h.exec_of_fresh (h.sound hsound) hcontains
    · rw [hfailed, Prod.mk.injEq] at hexec
      cases hexec.1
    · rw [hdeclared, Prod.mk.injEq, Except.ok.injEq] at hexec
      obtain ⟨rfl, rfl⟩ := hexec
      refine ⟨hgrown.registry.assigned hraw, ?_⟩
      rw [Declarations.find?_put, Declaration.name, if_pos hname]
      rfl

end

end Rendering

end ApiClient

import ApiClient.Proofs.Declaration
import ApiClient.Proofs.Draft.Growth
import ApiClient.Proofs.Name.Trace
import ApiClient.Proofs.Work.Sides

/-!
# Drafting beside a trace

Drafting that was given up leaves a trace in the draft: names that it was given and classes that it
declared. On a draft with such a trace and on one without it the same is drafted, as long as the
names that are given without the trace agree with those in it and none of them is declared there.
-/

namespace ApiClient

open Work

namespace Draft

/-- What work that was given up leaves in a draft: raw names with their identifiers, and the names
of declarations. -/
structure Trace where
  given : String → String → Prop
  declared : List String

/-- The names of a registry agree with those of a trace, and none of them is declared in it. -/
structure Trace.Clears (t : Trace) (final : Name.Registry) : Prop where
  agrees : Name.Registry.Agrees t.given final
  undeclared : ∀ {raw name}, final.identifier? raw = some name → name ∉ t.declared

/-- The first draft has what the second one has, and the trace. -/
structure Beside (t : Trace) (d d' : Draft) : Prop where
  registry : Name.Registry.Beside t.given d.registry d'.registry
  declarations : d'.declarations = List.filter (fun x ↦ x.name ∉ t.declared) d.declarations

/-- A draft and what drafting may turn it into: names are given and declarations are added. -/
structure Reaches (d d' : Draft) : Prop where
  registry : d.registry.Reaches d'.registry
  names : List.map (·.name) d.declarations <+: List.map (·.name) d'.declarations

instance : IsPreorder Draft Reaches where
  refl _ := ⟨.refl _, List.prefix_rfl⟩
  trans _ _ _ h h' := ⟨h.registry.trans h'.registry, h.names.trans h'.names⟩

/-- Drafting with a trace and without it, where a registry sets the limit to the names that are
given without it. -/
def sides (t : Trace) (final : Name.Registry) : Sides Draft where
  reaches := Reaches
  preorder := inferInstance
  within d := d.registry.Extends final
  within_of_reaches h hwithin := h.registry.extends.trans hwithin
  beside := Beside t

theorem names_put (ds : Declarations) (x : Declaration) :
    List.map (·.name) ds <+: List.map (·.name) (ds.put x) := by
  rw [Declarations.map_name_put]
  split
  · exact List.prefix_rfl
  · exact List.prefix_append _ _

/-- A name that is not in the trace is declared on both sides or on neither. -/
theorem Beside.contains {t : Trace} {d d' : Draft} (h : Beside t d d') {name : String}
    (hname : name ∉ t.declared) : d.declarations.contains name = d'.declarations.contains name := by
  rw [Bool.eq_iff_iff, Declarations.contains, Declarations.contains, List.any_eq_true,
    List.any_eq_true, h.declarations]
  refine exists_congr fun x ↦ ?_
  rw [List.mem_filter, decide_eq_true_iff, decide_eq_true_iff, and_right_comm]
  exact (and_iff_left_of_imp fun hx ↦ hx.2 ▸ hname).symm

/-- A declaration whose name is not in the trace is put in the same place. -/
theorem filter_put {declared : List String} (ds : Declarations) {x : Declaration}
    (hname : x.name ∉ declared) :
    List.filter (fun y ↦ y.name ∉ declared) (ds.put x) =
      Declarations.put (List.filter (fun y ↦ y.name ∉ declared) ds) x := by
  have hcontains : Declarations.contains (List.filter (fun y ↦ y.name ∉ declared) ds) x.name =
      ds.contains x.name := by
    rw [Bool.eq_iff_iff, Declarations.contains, Declarations.contains, List.any_filter,
      List.any_eq_true, List.any_eq_true]
    refine exists_congr fun y ↦ and_congr_right fun _ ↦ ?_
    rw [Bool.and_eq_true, decide_eq_true_iff, decide_eq_true_iff]
    exact and_iff_right_of_imp fun hsame ↦ hsame ▸ hname
  unfold Declarations.put
  rw [hcontains]
  split
  · rw [List.filter_map]
    have hkept : ((fun y : Declaration ↦ decide (y.name ∉ declared)) ∘
        fun y ↦ if y.name = x.name then x else y) = fun y ↦ decide (y.name ∉ declared) := by
      funext y
      simp only [Function.comp_apply]
      split
      · next hsame => rw [hsame]
      · rfl
    rw [hkept]
  · rw [List.filter_append, List.filter_singleton, decide_eq_true hname, cond_true]

end Draft

namespace Drafting

open Draft

variable {components : Components} {t : Trace} {final : Name.Registry}

theorem mirrors_report (x : Diagnostic) : (sides t final).Mirrors (report x) :=
  .modify (fun _ ↦ ⟨.refl _, List.prefix_rfl⟩) fun h _ ↦ ⟨h.registry, h.declarations⟩

theorem respects_declare (x : Declaration) : Respects Reaches (declare x) :=
  .modify fun d ↦ ⟨.refl _, names_put d.declarations x⟩

theorem mirrors_declare {x : Declaration} (hname : x.name ∉ t.declared) :
    (sides t final).Mirrors (declare x) :=
  ⟨respects_declare x, fun {d _} h _ ↦ ⟨rfl, h.registry,
    (congrArg (Declarations.put · x) h.declarations).trans (filter_put d.declarations hname).symm⟩⟩

theorem respects_declareClass (raw : String) (c : RecordClass) :
    Respects Reaches (declareClass raw c) := by
  unfold declareClass
  apply (Respects.lift _).bind
  intro functional
  split
  · have hreport (x : Diagnostic) : Respects Reaches (report x) :=
      .modify fun _ ↦ ⟨.refl _, List.prefix_rfl⟩
    exact (hreport _).bind fun _ ↦ respects_declare _
  · exact respects_declare _

theorem mirrors_declareClass (raw : String) {c : RecordClass} (hname : c.name ∉ t.declared) :
    (sides t final).Mirrors (declareClass raw c) := by
  unfold declareClass
  apply (Sides.Mirrors.lift _).bind
  intro functional
  split
  · exact (mirrors_report _).bind fun _ ↦ mirrors_declare hname
  · exact mirrors_declare hname

section

variable (hclear : t.Clears final)

include hclear

theorem mirrors_identify (raw : String) : (sides t final).Mirrors (identify raw) where
  respects d := ⟨Name.Registry.reaches_resolve d.registry raw, List.prefix_rfl⟩
  same h hwithin := by
    rw [exec_identify] at hwithin ⊢
    rw [exec_identify, h.registry.resolve_fst hclear.agrees hwithin]
    exact ⟨rfl, h.registry.resolve hclear.agrees hwithin, h.declarations⟩

/-- What comes after a raw name was given its identifier counts only for identifiers that are not
declared in the trace. -/
theorem mirrors_identify_bind {α : Type} (raw : String) {f : String → Drafting α}
    (hreaches : ∀ name, Respects Reaches (f name))
    (hf : ∀ name, name ∉ t.declared → (sides t final).Mirrors (f name)) :
    (sides t final).Mirrors (identify raw >>= f) := by
  refine (mirrors_identify hclear raw).bind_of hreaches fun {d name d'} hexec hwithin ↦ ?_
  rw [exec_identify, Prod.mk.injEq, Except.ok.injEq] at hexec
  obtain ⟨rfl, rfl⟩ := hexec
  have hname := hwithin.assigned (Name.Registry.identifier?_resolve_self d.registry raw)
  exact hf _ (hclear.undeclared hname)

theorem mirrors_typeOf (s : Schema) : (sides t final).Mirrors (typeOf s) where
  respects d := ⟨⟨s.references, rfl⟩, List.prefix_rfl⟩
  same {d d'} h hwithin := by
    obtain ⟨htype, hregistry⟩ := h.registry.typeOf hclear.agrees hwithin
    have hexec (d : Draft) : exec (typeOf s) d =
        (.ok (d.registry.typeOf s).1, { d with registry := (d.registry.typeOf s).2 }) := rfl
    rw [hexec, hexec, htype]
    exact ⟨rfl, hregistry, h.declarations⟩

theorem mirrors_follow {α : Type} (w : Walk α) : (sides t final).Mirrors (follow w) := by
  unfold follow
  apply Sides.Mirrors.bind
  · exact .modify (fun _ ↦ ⟨⟨w.met, rfl⟩, List.prefix_rfl⟩) fun h hwithin ↦
      ⟨h.registry.resolveAll hclear.agrees hwithin, h.declarations⟩
  · intro _
    cases w.outcome with
    | error chain => exact .throw _
    | ok a => exact .pure a

theorem mirrors_basesOf (raws bases : List String) :
    (sides t final).Mirrors (basesOf components raws bases) := by
  induction raws generalizing bases with
  | nil => exact .pure bases
  | cons raw raws ih =>
    unfold basesOf
    apply (mirrors_follow hclear _).bind
    intro base
    cases base with
    | none => exact ih bases
    | some root => exact (mirrors_identify hclear root).bind fun _ ↦ ih _

end

mutual

theorem mirrors_render (hclear : t.Clears final) (e : TypeExpr) (raw : String) :
    (sides t final).Mirrors (render components e raw) := by
  rw [render]
  split
  · exact .pure _
  · exact .pure _
  · exact .pure _
  · exact (Sides.Mirrors.mapM (fun v ↦ .lift _) _).bind fun _ ↦ .pure _
  · exact .pure _
  · next element hshape =>
    have hless := TypeExpr.size_lt_of_sequence hshape
    exact (mirrors_render hclear element _).bind fun _ ↦ .pure _
  · next members hshape =>
    have hless := TypeExpr.size_lt_of_union hshape
    exact mirrors_renderUnion hclear members raw 1 []
  · next extra hshape =>
    have hless := TypeExpr.size_lt_of_record hshape
    exact (mirrors_renderExtra hclear extra _).bind fun _ ↦ .pure _
  · next f fields extra hshape =>
    have hless := TypeExpr.size_lt_of_record hshape
    exact mirrors_declareRecord hclear raw (f :: fields) [] extra
  · next members hshape =>
    have hless := TypeExpr.size_lt_of_intersection hshape
    apply (mirrors_follow hclear _).bind
    intro isRecord
    cases isRecord with
    | false => exact (mirrors_report _).bind fun _ ↦ .pure _
    | true =>
      apply (mirrors_basesOf hclear _ _).bind
      intro bases
      exact mirrors_declareRecord hclear raw _ bases _
termination_by 4 * e.size
decreasing_by
  all_goals omega

theorem mirrors_renderUnion (hclear : t.Clears final) (members : List TypeExpr) (raw : String)
    (index : Nat) (rendered : List String) :
    (sides t final).Mirrors (renderUnion components members raw index rendered) := by
  match members with
  | [] =>
    rw [renderUnion]
    exact .pure _
  | e :: es =>
    rw [renderUnion]
    have hpos := e.size_pos
    apply (mirrors_render hclear e _).bind
    intro text
    split
    · exact .pure _
    · exact mirrors_renderUnion hclear es raw (index + 1) _
termination_by 4 * TypeExpr.sizeOfAll members + 1
decreasing_by
  all_goals
    simp only [TypeExpr.sizeOfAll]
    omega

theorem mirrors_declareRecord (hclear : t.Clears final) (raw : String)
    (fields : List (Field TypeExpr)) (bases : List String) (extra : Option TypeExpr) :
    (sides t final).Mirrors (declareRecord components raw fields bases extra) := by
  have hfields := mirrors_renderFields hclear raw fields []
  have hextra := mirrors_renderExtra hclear extra (raw ++ " value")
  rw [declareRecord]
  refine mirrors_identify_bind hclear raw (fun name ↦ ?_) fun name hname ↦ ?_
  · apply Respects.get.bind
    intro d
    split
    · exact .pure _
    · exact hfields.respects.bind fun _ ↦ hextra.respects.bind fun _ ↦
        (respects_declareClass _ _).bind fun _ ↦ .pure _
  · apply Sides.Mirrors.get_bind
    · intro d d' h
      rw [Beside.contains h hname]
    intro d
    split
    · exact .pure _
    · exact hfields.bind fun _ ↦ hextra.bind fun _ ↦
        (mirrors_declareClass raw hname).bind fun _ ↦ .pure _
termination_by 4 * (TypeExpr.sizeOfFields fields + TypeExpr.sizeOfOption extra) + 2

theorem mirrors_renderFields (hclear : t.Clears final) (raw : String)
    (fields : List (Field TypeExpr)) (rendered : List (Field String)) :
    (sides t final).Mirrors (renderFields components raw fields rendered) := by
  match fields with
  | [] =>
    rw [renderFields]
    exact .pure _
  | ⟨name, required, e⟩ :: fields =>
    rw [renderFields]
    have hpos := e.size_pos
    apply (Sides.Mirrors.lift _).bind
    intro plain
    apply (mirrors_render hclear e _).bind
    intro hint
    exact mirrors_renderFields hclear raw fields _
termination_by 4 * TypeExpr.sizeOfFields fields + 1
decreasing_by
  all_goals
    simp only [TypeExpr.sizeOfFields]
    omega

theorem mirrors_renderExtra (hclear : t.Clears final) (extra : Option TypeExpr) (raw : String) :
    (sides t final).Mirrors (renderExtra components extra raw) := by
  match extra with
  | none =>
    rw [renderExtra]
    exact .pure _
  | some e =>
    rw [renderExtra]
    exact (mirrors_render hclear e raw).bind fun _ ↦ .pure _
termination_by 4 * TypeExpr.sizeOfOption extra + 1
decreasing_by
  simp only [TypeExpr.sizeOfOption]
  omega

end

end Drafting

end ApiClient

import ApiClient.Proofs.Draft.Bases
import ApiClient.Proofs.Draft.Remarks
import ApiClient.Proofs.ReferenceChain

/-!
# Nested intersections

A member of an intersection may be put into an intersection of its own, anywhere in a tree of
intersections. A member that is not open is rendered as before: what an intersection is reduced to,
whether it is a record and what its leaves contribute are the same. An open member is left out of an
intersection, but an intersection of it alone is not: it counts as a member that is no record, and
the walk that looks for records does not reduce it. So the whole is no record any more, unless
nothing but open members stood beside it.
-/

namespace ApiClient

open Work Draft Drafting

/-! ## Places in a tree of intersections -/

namespace TypeExpr

/-- The members of an intersection before and after one of them. -/
structure Surrounding where
  before : List TypeExpr
  after : List TypeExpr

namespace Surrounding

/-- The other members. -/
def others (s : Surrounding) : List TypeExpr := s.before ++ s.after

/-- The intersection of a type with the other members. -/
def around (s : Surrounding) (e : TypeExpr) : TypeExpr := .intersection (s.before ++ e :: s.after)

end Surrounding

/-- A type in a place among intersections, each of which is a member of the next one. -/
def placed (place : List Surrounding) (e : TypeExpr) : TypeExpr :=
  place.foldl (fun e s ↦ s.around e) e

/-- The intersection with a single member. -/
def alone (e : TypeExpr) : TypeExpr := .intersection [e]

/-- A relation that holds around what it holds of holds in every place. -/
theorem placed_of_around {R : TypeExpr → TypeExpr → Prop}
    (haround : ∀ {e e'} (s : Surrounding), R e e' → R (s.around e) (s.around e'))
    (place : List Surrounding) {e e' : TypeExpr} (h : R e e') :
    R (placed place e) (placed place e') := by
  induction place generalizing e e' with
  | nil => exact h
  | cons s place ih => exact ih (haround s h)

/-! ## Reducing an intersection -/

theorem all_around (s : Surrounding) (e : TypeExpr) :
    (s.before ++ e :: s.after).all isAnything = (e.isAnything && s.others.all isAnything) := by
  simp only [Surrounding.others, List.all_append, List.all_cons, Bool.and_left_comm]

theorem collapseSole_around {e : TypeExpr} (h : e.isAnything = false)
    (before after : List TypeExpr) : collapseSole (before ++ e :: after) =
      if (before ++ after).all isAnything then some e.collapse else none := by
  induction before with
  | nil => rw [List.nil_append, collapseSole, if_neg (by simp [h]), List.nil_append]
  | cons d before ih =>
    rw [List.cons_append, collapseSole, List.cons_append, List.all_cons]
    cases hopen : d.isAnything with
    | true => rw [if_pos rfl, ih, Bool.true_and]
    | false => simp [h]

/-- An intersection of open types is open. -/
theorem collapse_of_all {members : List TypeExpr} (h : members.all isAnything = true) :
    (intersection members).collapse = anything := by
  have hsole : collapseSole members = some anything := by
    induction members with
    | nil => rw [collapseSole]
    | cons e members ih =>
      rw [List.all_cons, Bool.and_eq_true] at h
      rw [collapseSole, if_pos h.1, ih h.2]
  rw [collapse, hsole]

/-- Around a type that is not open, an intersection is reduced to that type or not at all. -/
theorem collapse_around {e : TypeExpr} (h : e.isAnything = false) (s : Surrounding) :
    (s.around e).collapse = if s.others.all isAnything then e.collapse else s.around e := by
  rw [Surrounding.around, collapse, collapseSole_around h, Surrounding.others]
  by_cases hothers : (s.before ++ s.after).all isAnything = true
  · rw [if_pos hothers, if_pos hothers]
  · rw [if_neg hothers, if_neg hothers]

end TypeExpr

/-! ## Walks around a member -/

namespace Components

open TypeExpr

variable {components : Components} {chain : List String}

theorem isRecord_around {s : Surrounding} {e : TypeExpr}
    (h : e.isAnything = false ∨ s.others.all isAnything = false) :
    isRecord components chain (s.around e) =
      allRecords components chain (s.before ++ e :: s.after) := by
  rw [Surrounding.around, isRecord, all_around, if_neg]
  rcases h with h | h <;> simp [h]

theorem allRecords_congr {e e' : TypeExpr} (hopen : e'.isAnything = e.isAnything)
    (hrecord : isRecord components chain e' = isRecord components chain e)
    (before after : List TypeExpr) :
    allRecords components chain (before ++ e' :: after) =
      allRecords components chain (before ++ e :: after) := by
  induction before with
  | nil => simp only [List.nil_append, allRecords, hopen, hrecord]
  | cons d before ih => simp only [List.cons_append, allRecords, ih]

/-- The intersection of an open type alone is no record. -/
theorem isRecord_alone {e : TypeExpr} (h : e.isAnything = true) :
    isRecord components chain (alone e) = pure false := by
  rw [alone, isRecord, if_pos]
  rw [List.all_cons, h, List.all_nil, Bool.true_and]

/-- An intersection with a member that is closed and no record is no record. -/
theorem outcome_isRecord_around_ne {e : TypeExpr} (hclosed : e.isAnything = false)
    (h : (isRecord components chain e).outcome ≠ .ok true) (s : Surrounding) :
    (isRecord components chain (s.around e)).outcome ≠ .ok true := by
  rw [isRecord_around (.inl hclosed)]
  intro hall
  have hmem : e ∈ s.before ++ e :: s.after := List.mem_append_right _ List.mem_cons_self
  rcases forall_of_allRecords hall e hmem with hopen | hrecord
  · rw [hclosed] at hopen
    cases hopen
  · exact h hrecord

/-- Where a closed member is no record, the walk fails before it or at it. So it fails just so with
another member in its place, at which it fails if it fails here. -/
theorem error_of_around {e e' : TypeExpr} (hclosed : e'.isAnything = false)
    (hrecord : (isRecord components chain e').outcome ≠ .ok true)
    (herror : ∀ {reported}, (isRecord components chain e').outcome = .error reported →
      e.isAnything = false ∧ (isRecord components chain e).outcome = .error reported)
    {before after : List TypeExpr} {reported : List String}
    (h : (allRecords components chain (before ++ e' :: after)).outcome = .error reported) :
    (allRecords components chain (before ++ e :: after)).outcome = .error reported := by
  induction before with
  | nil =>
    rw [List.nil_append, allRecords, if_neg (by simp [hclosed])] at h
    cases hwalk : (isRecord components chain e').outcome with
    | ok isRecord =>
      rw [Walk.outcome_bind_of_ok hwalk] at h
      cases isRecord with
      | true => exact absurd hwalk hrecord
      | false => cases h
    | error reported' =>
      obtain ⟨hclosed', hfails⟩ := herror hwalk
      rw [Walk.outcome_bind_of_error hwalk] at h
      rw [List.nil_append, allRecords, if_neg (by simp [hclosed']),
        Walk.outcome_bind_of_error hfails, h]
  | cons d before ih =>
    rw [List.cons_append, allRecords] at h ⊢
    split at h
    · next hopen => rw [if_pos hopen, ih h]
    · next hopen =>
      rw [if_neg hopen]
      cases hwalk : (isRecord components chain d).outcome with
      | error reported' =>
        rw [Walk.outcome_bind_of_error hwalk] at h ⊢
        exact h
      | ok isRecord =>
        rw [Walk.outcome_bind_of_ok hwalk] at h ⊢
        cases isRecord with
        | true => exact ih h
        | false => exact h

end Components

/-! ## Types that are rendered alike -/

open TypeExpr

variable {components : Components}

theorem render_eq_work (e : TypeExpr) (raw : String) (d : Draft) :
    render components e raw = (Rendering.mk d e raw).work components := rfl

/-- Types of which one can stand for the other in any intersection. -/
structure Interchangeable (components : Components) (e e' : TypeExpr) : Prop where
  isAnything : e'.isAnything = e.isAnything
  isRecord : ∀ chain, components.isRecord chain e' = components.isRecord chain e
  leaves : e'.leaves = e.leaves
  collapse : e'.collapse = e.collapse ∨
    ∃ members members', e.collapse = .intersection members ∧ e'.collapse = .intersection members'

namespace Interchangeable

variable {e e' : TypeExpr}

theorem around (s : Surrounding) (h : Interchangeable components e e') :
    Interchangeable components (s.around e) (s.around e') where
  isAnything := rfl
  isRecord chain := by
    rw [Surrounding.around, Surrounding.around, Components.isRecord, Components.isRecord,
      all_around, all_around, h.isAnything,
      Components.allRecords_congr h.isAnything (h.isRecord chain)]
  leaves := by
    simp only [Surrounding.around, TypeExpr.leaves, leavesOfAll_append, leavesOfAll, h.leaves]
  collapse := by
    cases hopen : e.isAnything with
    | true =>
      have hopen' : e'.isAnything = true := h.isAnything.trans hopen
      obtain rfl : e = .anything := by cases e <;> trivial
      obtain rfl : e' = .anything := by cases e' <;> trivial
      exact .inl rfl
    | false =>
      rw [collapse_around hopen, collapse_around (h.isAnything.trans hopen)]
      split
      · exact h.collapse
      · exact .inr ⟨_, _, rfl, rfl⟩

/-- Interchangeable types are rendered by the same work. -/
theorem render_eq (h : Interchangeable components e e') (raw : String) :
    render components e' raw = render components e raw := by
  rw [render_eq_work e' raw .empty, render_eq_work e raw .empty, Rendering.work_eq,
    Rendering.work_eq]
  rcases h.collapse with hsame | ⟨members, members', hshape, hshape'⟩
  · simp only [hsame]
  · have hrecord : components.isRecord [] (.intersection members') =
        components.isRecord [] (.intersection members) := by
      rw [← hshape, ← hshape', Components.isRecord_collapse, Components.isRecord_collapse,
        h.isRecord]
    have hleaves : leavesOfAll members' = leavesOfAll members := by
      have hleaves := h.leaves
      rwa [← leaves_collapse e, ← leaves_collapse e', hshape, hshape', TypeExpr.leaves,
        TypeExpr.leaves] at hleaves
    have hcontribution : Contribution.ofMembers members' = Contribution.ofMembers members := by
      rw [Contribution.ofMembers, Contribution.ofMembers, Contribution.gather_eq_foldl,
        Contribution.gather_eq_foldl, hleaves]
    simp only [hshape, hshape', hrecord, hcontribution]

/-- Types that are reduced to the same one are interchangeable. -/
theorem of_collapse (hopen : e'.isAnything = e.isAnything) (h : e'.collapse = e.collapse) :
    Interchangeable components e e' where
  isAnything := hopen
  isRecord chain := by
    rw [← Components.isRecord_collapse e', h, Components.isRecord_collapse]
  leaves := by rw [← leaves_collapse e', h, leaves_collapse]
  collapse := .inl h

/-- A type that is not open is interchangeable with the intersection of it alone. -/
theorem alone (h : e.isAnything = false) : Interchangeable components e (alone e) :=
  of_collapse h.symm (collapse_around h ⟨[], []⟩)

/-- Beside open members only, an open member is interchangeable with the intersection of it
alone. -/
theorem alone_around {s : Surrounding} (hopen : e.isAnything = true)
    (h : s.others.all TypeExpr.isAnything = true) :
    Interchangeable components (s.around e) (s.around (TypeExpr.alone e)) := by
  have hkind : (s.around (TypeExpr.alone e)).isAnything = (s.around e).isAnything := rfl
  refine of_collapse hkind ?_
  have hwhole : (s.around e).collapse = .anything := by
    apply collapse_of_all
    rw [all_around, hopen, h, Bool.true_and]
  have hinner : (TypeExpr.alone e).collapse = .anything := by
    apply collapse_of_all
    rw [List.all_cons, hopen, List.all_nil, Bool.true_and]
  have hclosed : (TypeExpr.alone e).isAnything = false := rfl
  rw [collapse_around hclosed, if_pos h, hinner, hwhole]

end Interchangeable

/-! ## Types that are rendered as mixed -/

/-- The second type is no record in any intersection, and is not reduced to one of its members.
Where the search for records fails at it, it fails at the first one. -/
structure Spoils (components : Components) (e e' : TypeExpr) : Prop where
  closed : e.isAnything = false
  closed' : e'.isAnything = false
  shape : ∃ members, e'.collapse = .intersection members
  no_record : ∀ chain, (components.isRecord chain e').outcome ≠ .ok true
  fails : ∀ {chain reported}, (components.isRecord chain e').outcome = .error reported →
    (components.isRecord chain e).outcome = .error reported

namespace Spoils

variable {e e' : TypeExpr}

theorem around (s : Surrounding) (h : Spoils components e e') :
    Spoils components (s.around e) (s.around e') where
  closed := rfl
  closed' := rfl
  shape := by
    rw [collapse_around h.closed']
    split
    · exact h.shape
    · exact ⟨_, rfl⟩
  no_record chain := Components.outcome_isRecord_around_ne h.closed' (h.no_record chain) s
  fails {chain reported} hfails := by
    rw [Components.isRecord_around (.inl h.closed')] at hfails
    rw [Components.isRecord_around (.inl h.closed)]
    exact Components.error_of_around h.closed' (h.no_record chain)
      (fun hfails' ↦ ⟨h.closed, h.fails hfails'⟩) hfails

/-- Beside a member that is not open, an open member is spoilt by an intersection of its own. -/
theorem alone_around {s : Surrounding} (hopen : e.isAnything = true)
    (h : s.others.all isAnything = false) :
    Spoils components (s.around e) (s.around (alone e)) where
  closed := rfl
  closed' := rfl
  shape := by
    rw [collapse_around rfl, if_neg (by simp [h])]
    exact ⟨_, rfl⟩
  no_record chain := Components.outcome_isRecord_around_ne rfl (by
    rw [Components.isRecord_alone hopen]
    rintro ⟨⟩) s
  fails {chain reported} hfails := by
    rw [Components.isRecord_around (.inr h)] at hfails ⊢
    refine Components.error_of_around rfl ?_ ?_ hfails
    · rw [Components.isRecord_alone hopen]
      rintro ⟨⟩
    · intro reported' hfails'
      rw [Components.isRecord_alone hopen] at hfails'
      cases hfails'

end Spoils

/-! ## Ends of a rendering -/

section

variable {e : TypeExpr} {members : List TypeExpr} {raw : String}

/-- What a rendering does with an intersection once the walk for records has ended. -/
theorem exec_render_of_intersection (hshape : e.collapse = .intersection members) (d : Draft) :
    exec (render components e raw) d = exec (do
      if ← follow (components.isRecord [] e) then
        let bases ← basesOf components (Contribution.ofMembers members).references []
        declareRecord components raw (Contribution.ofMembers members).fields bases
          (Contribution.ofMembers members).extra
      else
        Drafting.report (mixedRemark raw)
        return "Any") d := by
  have hrecord : components.isRecord [] (.intersection members) = components.isRecord [] e := by
    rw [← hshape, Components.isRecord_collapse]
  rw [render_eq_work e raw d, Rendering.work_eq, hshape]
  simp only [hrecord, mixedRemark]

/-- An intersection that is no record becomes open, with a remark. -/
theorem exec_render_of_mixed (hshape : e.collapse = .intersection members)
    (h : (components.isRecord [] e).outcome = .ok false) (d : Draft) :
    exec (render components e raw) d = (.ok "Any",
      { d with
        registry := d.registry.resolveAll (components.isRecord [] e).met
        diagnostics := d.diagnostics ++ [mixedRemark raw] }) := by
  rw [exec_render_of_intersection hshape, exec_bind_of_ok (exec_follow_of_ok h d)]
  rfl

theorem exec_render_of_error (hshape : e.collapse = .intersection members) {chain : List String}
    (h : (components.isRecord [] e).outcome = .error chain) (d : Draft) :
    exec (render components e raw) d = (.error (.recursiveSchema chain),
      { d with registry := d.registry.resolveAll (components.isRecord [] e).met }) := by
  rw [exec_render_of_intersection hshape, exec_bind_of_error (exec_follow_of_error h d)]

/-- The remark that an intersection is mixed is made at its raw name for no other reason. -/
theorem adds_render_of_not_mixed
    (h : ∀ members, e.collapse = .intersection members →
      (components.isRecord [] e).outcome ≠ .ok false) :
    Respects (Adds (· ≠ mixedRemark raw)) (render components e raw) := by
  have hP : Permits (· ≠ mixedRemark raw) (raw.length + 1) := by
    constructor
    · intro raw' hsame
      injection hsame with _ _ hmessage
      exact absurd hmessage (by decide)
    · intro raw' hlength hsame
      injection hsame with _ hlocation
      injection hlocation with hlocation
      rw [hlocation] at hlength
      omega
  have hitem : raw.length + 1 ≤ (raw ++ " item").length := by
    have hitem : " item".length = 5 := rfl
    rw [String.length_append]
    omega
  have hvalue : raw.length + 1 ≤ (raw ++ " value").length := by
    have hvalue : " value".length = 6 := rfl
    rw [String.length_append]
    omega
  intro d
  rw [render_eq_work e raw d, Rendering.work_eq]
  simp only
  cases hshape : e.collapse with
  | literal choices =>
    exact (Respects.mapM (fun v ↦ Respects.lift _) _ _).bind fun _ _ _ ↦ Respects.pure _ _
  | sequence element => exact (adds_render hP element hitem d).bind fun _ _ _ ↦ Respects.pure _ _
  | union members => exact adds_renderUnion hP members le_rfl 1 [] d
  | record fields extra =>
    cases fields with
    | nil => exact (adds_renderExtra hP extra hvalue d).bind fun _ _ _ ↦ Respects.pure _ _
    | cons f fields => exact adds_declareRecord hP le_rfl (f :: fields) [] extra d
  | intersection members =>
    apply (adds_follow _ d).bind
    intro isRecord d' hrecord
    have houtcome := outcome_of_follow hrecord
    rw [← hshape, Components.isRecord_collapse] at houtcome
    cases isRecord with
    | false => exact absurd houtcome (h members hshape)
    | true =>
      apply (adds_basesOf _ _ d').bind
      intro bases d'' _
      exact adds_declareRecord hP le_rfl _ bases _ d''
  | _ => exact Respects.pure _ _

end

/-! ## Nesting a member -/

/-- Two ends of a rendering with the same annotation or fault, declarations and diagnostics. -/
structure Agree (x y : Except Fault String × Draft) : Prop where
  result : x.1 = y.1
  declarations : x.2.declarations = y.2.declarations
  diagnostics : x.2.diagnostics = y.2.diagnostics

/-- A walk fails only for an intersection or a reference. -/
theorem shape_of_error {e : TypeExpr} {chain : List String}
    (h : (components.isRecord [] e).outcome = .error chain) :
    (∃ members, e.collapse = .intersection members) ∨
      ∃ identifier raw, e.collapse = .named identifier raw := by
  rw [← Components.isRecord_collapse] at h
  cases hshape : e.collapse with
  | intersection members => exact .inl ⟨members, rfl⟩
  | named identifier raw => exact .inr ⟨identifier, raw, rfl⟩
  | _ =>
    simp only [hshape, Components.isRecord] at h
    cases h

/-- A spoilt type is rendered like the other one just if that one is an intersection for which the
walk ends in the same way. -/
theorem Spoils.agree_iff {e e' : TypeExpr} (h : Spoils components e e') (raw : String) (d : Draft) :
    Agree (exec (render components e' raw) d) (exec (render components e raw) d) ↔
      (∃ members, e.collapse = .intersection members) ∧
        (components.isRecord [] e).outcome = (components.isRecord [] e').outcome := by
  obtain ⟨members', hshape'⟩ := h.shape
  cases hrecord' : (components.isRecord [] e').outcome with
  | error chain =>
    have hrecord := h.fails hrecord'
    rw [exec_render_of_error hshape' hrecord']
    constructor
    · intro hagree
      refine ⟨?_, hrecord⟩
      rcases shape_of_error hrecord with hshape | ⟨identifier, target, hshape⟩
      · exact hshape
      · -- A reference is rendered without a walk.
        have hresult := hagree.result
        rw [render_eq_work e raw d, Rendering.work_eq, hshape] at hresult
        cases hresult
    · rintro ⟨⟨members, hshape⟩, -⟩
      rw [exec_render_of_error hshape hrecord]
      exact ⟨rfl, rfl, rfl⟩
  | ok isRecord =>
    have hfalse : isRecord = false := by
      cases isRecord with
      | false => rfl
      | true => exact absurd hrecord' (h.no_record [])
    subst hfalse
    rw [exec_render_of_mixed hshape' hrecord']
    constructor
    · intro hagree
      by_contra hdiffers
      have hadds : Adds (· ≠ mixedRemark raw) d (exec (render components e raw) d).2 :=
        adds_render_of_not_mixed
          (fun members hshape hrecord ↦ hdiffers ⟨⟨members, hshape⟩, hrecord⟩) d
      obtain ⟨new, hnew, hkind⟩ := hadds
      rw [← hagree.diagnostics, List.append_cancel_left_eq] at hnew
      exact hkind _ (hnew ▸ List.mem_singleton_self _) rfl
    · rintro ⟨⟨members, hshape⟩, hrecord⟩
      rw [exec_render_of_mixed hshape hrecord]
      exact ⟨rfl, rfl, rfl⟩

/-- Putting a member into an intersection of its own changes nothing if the member is not open, or
if only open ones stand beside it. Otherwise it changes what is rendered, unless the whole was a
mixed intersection before, or one in which references return to themselves. -/
theorem nesting_agree_iff (components : Components) (s : Surrounding) (place : List Surrounding)
    (e : TypeExpr) (raw : String) :
    (e.isAnything = false ∨ s.others.all isAnything = true →
      render components (placed (s :: place) (alone e)) raw =
        render components (placed (s :: place) e) raw) ∧
    ∀ d, Agree (exec (render components (placed (s :: place) (alone e)) raw) d)
        (exec (render components (placed (s :: place) e) raw) d) ↔
      e.isAnything = false ∨ s.others.all isAnything = true ∨
        (∃ members, (placed (s :: place) e).collapse = .intersection members) ∧
          (components.isRecord [] (placed (s :: place) e)).outcome =
            (components.isRecord [] (placed (s :: place) (alone e))).outcome := by
  have hsame : e.isAnything = false ∨ s.others.all isAnything = true →
      render components (placed (s :: place) (alone e)) raw =
        render components (placed (s :: place) e) raw := by
    intro hcases
    have haround : Interchangeable components (s.around e) (s.around (alone e)) := by
      cases hopen : e.isAnything with
      | false => exact (Interchangeable.alone hopen).around s
      | true => exact .alone_around hopen (hcases.resolve_left (by simp [hopen]))
    exact (placed_of_around (fun s ↦ Interchangeable.around s) place haround).render_eq raw
  refine ⟨hsame, fun d ↦ ?_⟩
  by_cases hcases : e.isAnything = false ∨ s.others.all isAnything = true
  · rw [hsame hcases, ← or_assoc]
    exact iff_of_true ⟨rfl, rfl, rfl⟩ (.inl hcases)
  · rw [← or_assoc, or_iff_right hcases]
    push Not at hcases
    have haround : Spoils components (s.around e) (s.around (alone e)) :=
      .alone_around (by simpa using hcases.1) (by simpa using hcases.2)
    exact (placed_of_around (fun s ↦ Spoils.around s) place haround).agree_iff raw d

/-- A record with one property as the only other member. -/
def besideRecord : Surrounding :=
  ⟨[.record [⟨.text "a", false, .scalar .string⟩] none], []⟩

/-- What rendering a type beside a record leads to. -/
def renderedBesideRecord (e : TypeExpr) : Except Fault String × Draft :=
  exec (render [] (placed [besideRecord] e) "pet") .empty

/-- An open member beside a record is left out, and the intersection of it alone is not. -/
theorem nesting_openMember :
    ¬ Agree (renderedBesideRecord (alone .anything)) (renderedBesideRecord .anything) := by
  intro hagree
  have hnested : (renderedBesideRecord (alone .anything)).1.toOption = some "Any" := by
    decide +kernel
  have hplain : (renderedBesideRecord .anything).1.toOption = some "Pet" := by decide +kernel
  rw [hagree.result, hplain] at hnested
  exact absurd hnested (by decide)

end ApiClient

import ApiClient.Draft
import ApiClient.Proofs.TypeExpr
import Mathlib.Logic.Relation

/-!
# Record components

A walk along references that succeeds never meets a name twice on one path, and it would succeed
just so if fewer names were on the path before. So the components that a record inherits from are
records themselves, found by the walk that found the record, and none of them is the record itself.
Whether a type is a record does not depend on the identifiers of the references in it.
-/

namespace ApiClient

namespace Walk

variable {α β : Type}

/-- A walk in two parts that succeeds has succeeded in both. -/
theorem of_outcome_bind {w : Walk α} {f : α → Walk β} {b : β}
    (h : (w >>= f).outcome = .ok b) : ∃ a, w.outcome = .ok a ∧ (f a).outcome = .ok b := by
  change (Walk.bind w f).outcome = .ok b at h
  unfold Walk.bind at h
  cases hw : w.outcome with
  | error chain =>
    rw [hw] at h
    cases h
  | ok a =>
    rw [hw] at h
    exact ⟨a, rfl, h⟩

theorem outcome_bind_of_ok {w : Walk α} {a : α} (h : w.outcome = .ok a) (f : α → Walk β) :
    (w >>= f).outcome = (f a).outcome := by
  change (Walk.bind w f).outcome = _
  unfold Walk.bind
  rw [h]

theorem outcome_meet_bind (names : List String) (f : Unit → Walk β) :
    (meet names >>= f).outcome = (f ()).outcome := rfl

/-- A walk that only passes on what it found. -/
theorem bind_pure (w : Walk α) : w >>= pure = w := by
  change Walk.bind w pure = w
  unfold Walk.bind
  obtain ⟨met, outcome⟩ := w
  cases outcome with
  | error chain => rfl
  | ok a => exact congrArg (Walk.mk · (.ok a)) (List.append_nil met)

end Walk

namespace Components

variable {components : Components} {chain chain' : List String}

/-- Each component of a map is found under its name. -/
theorem lookup_of_mem (hmap : (components.map (·.1)).Nodup) {raw : String} {s : Schema}
    (h : (raw, s) ∈ components) : components.lookup raw = some s := by
  obtain ⟨before, after, rfl⟩ := List.append_of_mem h
  refine List.lookup_eq_some_iff.2 ⟨before, after, rfl, fun other hother ↦ ?_⟩
  rw [List.map_append, List.map_cons, List.nodup_append] at hmap
  have hdifferent := hmap.2.2 other.1 (List.mem_map_of_mem hother) raw List.mem_cons_self
  exact bne_iff_ne.2 (Ne.symm hdifferent)

theorem mem_of_lookup {raw : String} {s : Schema} (h : components.lookup raw = some s) :
    (raw, s) ∈ components := by
  obtain ⟨before, after, rfl, -⟩ := List.lookup_eq_some_iff.1 h
  exact List.mem_append_right _ List.mem_cons_self

/-! ## Walks by the shape of the type -/

/-- The type of a component, up to the identifiers of the references in it. -/
def shape (s : Schema) : TypeExpr := (TypeExpr.ofSchema id s).collapse

theorem relabel_shape (identify : String → String) (s : Schema) :
    (shape s).relabel identify = (TypeExpr.ofSchema identify s).collapse := by
  rw [shape, ← TypeExpr.collapse_relabel, TypeExpr.relabel_ofSchema]

theorem fresh_of_recordBase {raw : String} {r : Option String}
    (h : (recordBase components chain raw).outcome = .ok r) : raw ∉ chain := by
  intro hmem
  rw [recordBase, dif_pos hmem] at h
  cases h

theorem recordBase_of_unknown {raw : String} (hfresh : raw ∉ chain)
    (hunknown : components.lookup raw = none) :
    (recordBase components chain raw).outcome = .ok none := by
  rw [recordBase, dif_neg hfresh]
  split
  · rfl
  · next hknown => rw [hunknown] at hknown; cases hknown

/-- An alias stands for what its target stands for. -/
theorem recordBase_of_alias {raw target identifier : String} {s : Schema} (hfresh : raw ∉ chain)
    (hknown : components.lookup raw = some s) (hshape : shape s = .named identifier target) :
    (recordBase components chain raw).outcome =
      (recordBase components (chain ++ [raw]) target).outcome := by
  rw [recordBase, dif_neg hfresh]
  split
  · next hunknown => rw [hunknown] at hknown; cases hknown
  · next s' hknown' =>
    obtain rfl : s = s' := Option.some.inj (hknown.symm.trans hknown')
    rw [Walk.outcome_meet_bind]
    split
    · next hnamed =>
      cases hshape.symm.trans hnamed
      rfl
    · next hother => exact absurd hshape (hother _ _)

/-- Another component stands for itself if it is a record, and for nothing otherwise. -/
theorem recordBase_of_shape {raw : String} {s : Schema} (hfresh : raw ∉ chain)
    (hknown : components.lookup raw = some s)
    (hshape : ∀ identifier target, shape s ≠ .named identifier target) :
    (recordBase components chain raw).outcome =
      (isRecord components (chain ++ [raw]) (shape s)).outcome.map
        fun isRecord ↦ if isRecord then some raw else none := by
  rw [recordBase, dif_neg hfresh]
  split
  · next hunknown => rw [hunknown] at hknown; cases hknown
  · next s' hknown' =>
    obtain rfl : s = s' := Option.some.inj (hknown.symm.trans hknown')
    rw [Walk.outcome_meet_bind]
    unfold shape at hshape ⊢
    split
    · next hnamed => exact absurd hnamed (hshape _ _)
    · change (Walk.bind _ _).outcome = _
      unfold Walk.bind
      cases (isRecord components (chain ++ [raw]) (TypeExpr.ofSchema id s).collapse).outcome with
      | error chain => rfl
      | ok isRecord => cases isRecord <;> rfl

/-- A component that stands for a record is an alias of one, or a record. -/
theorem recordBase_cases {raw root : String}
    (h : (recordBase components chain raw).outcome = .ok (some root)) :
    ∃ s, components.lookup raw = some s ∧
      ((∃ identifier target, shape s = .named identifier target ∧
        (recordBase components (chain ++ [raw]) target).outcome = .ok (some root)) ∨
      (∀ identifier target, shape s ≠ .named identifier target) ∧ root = raw ∧
        (isRecord components (chain ++ [raw]) (shape s)).outcome = .ok true) := by
  have hfresh := fresh_of_recordBase h
  cases hknown : components.lookup raw with
  | none =>
    rw [recordBase_of_unknown hfresh hknown] at h
    cases h
  | some s =>
    refine ⟨s, rfl, ?_⟩
    by_cases halias : ∃ identifier target, shape s = .named identifier target
    · obtain ⟨identifier, target, hshape⟩ := halias
      rw [recordBase_of_alias hfresh hknown hshape] at h
      exact .inl ⟨identifier, target, hshape, h⟩
    · push Not at halias
      rw [recordBase_of_shape hfresh hknown halias] at h
      refine .inr ⟨halias, ?_⟩
      cases hrecord : (isRecord components (chain ++ [raw]) (shape s)).outcome with
      | error chain =>
        rw [hrecord] at h
        cases h
      | ok isRecord =>
        rw [hrecord] at h
        cases isRecord with
        | false => cases h
        | true => exact ⟨(Option.some.inj (Except.ok.inj h)).symm, rfl⟩

theorem outcome_isRecord_named (identifier raw : String) :
    (isRecord components chain (.named identifier raw)).outcome =
      (recordBase components chain raw).outcome.map Option.isSome := by
  rw [isRecord]
  change (Walk.bind _ _).outcome = _
  unfold Walk.bind
  cases (recordBase components chain raw).outcome <;> rfl

/-- A reference that is a record stands for one. -/
theorem exists_root_of_isRecord {identifier raw : String}
    (h : (isRecord components chain (.named identifier raw)).outcome = .ok true) :
    ∃ root, (recordBase components chain raw).outcome = .ok (some root) := by
  rw [outcome_isRecord_named] at h
  cases hbase : (recordBase components chain raw).outcome with
  | error chain =>
    rw [hbase] at h
    cases h
  | ok r =>
    cases r with
    | none =>
      rw [hbase] at h
      cases h
    | some root => exact ⟨root, rfl⟩

/-- All members of a record that is an intersection are open or records. -/
theorem forall_of_allRecords {es : List TypeExpr}
    (h : (allRecords components chain es).outcome = .ok true) :
    ∀ e ∈ es, e.isAnything = true ∨ (isRecord components chain e).outcome = .ok true := by
  induction es with
  | nil => exact fun e he ↦ absurd he List.not_mem_nil
  | cons e es ih =>
    rw [allRecords] at h
    rw [List.forall_mem_cons]
    split at h
    · next hopen => exact ⟨.inl hopen, ih h⟩
    · obtain ⟨isRecord, hrecord, h⟩ := Walk.of_outcome_bind h
      cases isRecord with
      | false => cases h
      | true => exact ⟨.inr hrecord, ih h⟩

theorem allRecords_of_intersection {members : List TypeExpr}
    (h : (isRecord components chain (.intersection members)).outcome = .ok true) :
    (allRecords components chain members).outcome = .ok true := by
  rw [isRecord] at h
  split at h
  · cases h
  · exact h

/-! ## Shorter chains -/

mutual

/-- A walk that succeeds after some names succeeds just so after some of these names. -/
theorem recordBase_of_subset {chain chain' : List String} (hsubset : chain ⊆ chain') {raw : String}
    {r : Option String} (h : (recordBase components chain' raw).outcome = .ok r) :
    (recordBase components chain raw).outcome = .ok r := by
  have hfresh' := fresh_of_recordBase h
  have hfresh : raw ∉ chain := fun hmem ↦ hfresh' (hsubset hmem)
  have hlonger : chain ++ [raw] ⊆ chain' ++ [raw] :=
    List.append_subset.2 ⟨fun name hname ↦ List.mem_append_left _ (hsubset hname),
      List.subset_append_right _ _⟩
  match hknown : components.lookup raw with
  | none =>
    rw [recordBase_of_unknown hfresh' hknown] at h
    rw [recordBase_of_unknown hfresh hknown, h]
  | some s =>
    have hless := remaining_append_lt hknown hfresh'
    by_cases halias : ∃ identifier target, shape s = .named identifier target
    · obtain ⟨identifier, target, hshape⟩ := halias
      rw [recordBase_of_alias hfresh' hknown hshape] at h
      rw [recordBase_of_alias hfresh hknown hshape]
      exact recordBase_of_subset hlonger h
    · push Not at halias
      rw [recordBase_of_shape hfresh' hknown halias] at h
      rw [recordBase_of_shape hfresh hknown halias]
      cases hrecord : (isRecord components (chain' ++ [raw]) (shape s)).outcome with
      | error failed =>
        rw [hrecord] at h
        cases h
      | ok result =>
        rw [hrecord] at h
        rw [isRecord_of_subset hlonger hrecord, h]
termination_by (components.remaining chain', 0)
decreasing_by
  all_goals exact Prod.Lex.left _ _ hless

theorem isRecord_of_subset {chain chain' : List String} (hsubset : chain ⊆ chain') {e : TypeExpr}
    {result : Bool} (h : (isRecord components chain' e).outcome = .ok result) :
    (isRecord components chain e).outcome = .ok result := by
  match e with
  | .named identifier raw =>
    rw [outcome_isRecord_named] at h ⊢
    cases hbase : (recordBase components chain' raw).outcome with
    | error failed =>
      rw [hbase] at h
      cases h
    | ok r =>
      rw [hbase] at h
      rw [recordBase_of_subset hsubset hbase, h]
  | .intersection members =>
    rw [isRecord] at h ⊢
    split at h
    · next hopen => rwa [if_pos hopen]
    · next hopen =>
      rw [if_neg hopen]
      exact allRecords_of_subset hsubset h
  | .record _ _ | .anything | .binary | .scalar _ | .literal _ | .sequence _ | .union _ =>
    simp only [isRecord] at h ⊢
    exact h
termination_by (components.remaining chain', 2 * e.size)
decreasing_by
  · exact Prod.Lex.right _ (by simp [TypeExpr.size])
  · exact Prod.Lex.right _ (by simp [TypeExpr.size]; omega)

theorem allRecords_of_subset {chain chain' : List String} (hsubset : chain ⊆ chain')
    {es : List TypeExpr} {result : Bool}
    (h : (allRecords components chain' es).outcome = .ok result) :
    (allRecords components chain es).outcome = .ok result := by
  match es with
  | [] =>
    rw [allRecords] at h ⊢
    exact h
  | e :: es =>
    rw [allRecords] at h ⊢
    split at h
    · next hopen =>
      rw [if_pos hopen]
      exact allRecords_of_subset hsubset h
    · next hopen =>
      rw [if_neg hopen]
      obtain ⟨isRecord, hrecord, h⟩ := Walk.of_outcome_bind h
      rw [Walk.outcome_bind_of_ok (isRecord_of_subset hsubset hrecord)]
      cases isRecord with
      | false => exact h
      | true => exact allRecords_of_subset hsubset h
termination_by (components.remaining chain', 2 * TypeExpr.sizeOfAll es + 1)
decreasing_by
  all_goals
    have := e.size_pos
    exact Prod.Lex.right _ (by simp [TypeExpr.sizeOfAll]; try omega)

end

/-! ## Identifiers -/

theorem isEmpty_relabelFields (f : String → String) (fields : List (Field TypeExpr)) :
    (TypeExpr.relabelFields f fields).isEmpty = fields.isEmpty := by
  cases fields <;> rfl

mutual

/-- Whether a type is a record does not depend on identifiers. -/
theorem isRecord_relabel (f : String → String) (e : TypeExpr) :
    isRecord components chain (e.relabel f) = isRecord components chain e := by
  match e with
  | .record fields extra =>
    simp only [TypeExpr.relabel, isRecord, isEmpty_relabelFields]
  | .intersection members =>
    simp only [TypeExpr.relabel, isRecord, TypeExpr.all_isAnything_relabel,
      allRecords_relabel f members]
  | .named _ _ | .anything | .binary | .scalar _ | .literal _ | .sequence _ | .union _ =>
    simp only [TypeExpr.relabel, isRecord]

theorem allRecords_relabel (f : String → String) (es : List TypeExpr) :
    allRecords components chain (TypeExpr.relabelAll f es) = allRecords components chain es := by
  match es with
  | [] => rfl
  | e :: es =>
    simp only [TypeExpr.relabelAll, allRecords, TypeExpr.isAnything_relabel,
      isRecord_relabel f e, allRecords_relabel f es]

end

/-! ## References of a record -/

theorem allRecords_of_all {es : List TypeExpr} (h : es.all TypeExpr.isAnything = true) :
    allRecords components chain es = pure true := by
  induction es with
  | nil => rw [allRecords]
  | cons e es ih =>
    rw [List.all_cons, Bool.and_eq_true] at h
    rw [allRecords, if_pos h.1, ih h.2]

mutual

/-- Reducing a type does not change the walk that asks whether it is a record. -/
theorem isRecord_collapse (e : TypeExpr) :
    isRecord components chain e.collapse = isRecord components chain e := by
  match e with
  | .intersection members =>
    rw [TypeExpr.collapse]
    split
    · next reduced hsole => rw [isRecord_of_collapseSole members hsole, ← isRecord]
    · rfl
  | .record _ _ | .named _ _ | .anything | .binary | .scalar _ | .literal _ | .sequence _
  | .union _ => simp only [TypeExpr.collapse]

/-- The walk for the only member of an intersection that is not open is that for all members. -/
theorem isRecord_of_collapseSole (es : List TypeExpr) {reduced : TypeExpr}
    (h : TypeExpr.collapseSole es = some reduced) :
    isRecord components chain reduced =
      if es.all TypeExpr.isAnything then pure false else allRecords components chain es := by
  match es with
  | [] =>
    rw [TypeExpr.collapseSole, Option.some.injEq] at h
    rw [← h, isRecord, List.all_nil, if_pos rfl]
    all_goals simp
  | e :: es =>
    rw [TypeExpr.collapseSole] at h
    rw [List.all_cons, allRecords]
    split at h
    · next hopen =>
      rw [isRecord_of_collapseSole es h, hopen, Bool.true_and, if_pos rfl]
    · next hopen =>
      split at h
      · next hrest =>
        have hpass : (fun isRecord : Bool ↦ if isRecord = true then
            allRecords components chain es else pure false) = pure := by
          funext isRecord
          rw [allRecords_of_all hrest]
          cases isRecord <;> rfl
        rw [if_neg (by simp [hopen]), if_neg hopen, hpass, Walk.bind_pure, ← Option.some.inj h,
          isRecord_collapse e]
      · cases h

end

/-- The references that members contribute stand for records when the members are records. -/
theorem exists_root_of_mem_gather (pending : List TypeExpr) (c : Contribution)
    (h : ∀ e ∈ pending, e.isAnything = true ∨ (isRecord components chain e).outcome = .ok true) :
    ∀ reference ∈ (Contribution.gather pending c).references, reference ∈ c.references ∨
      ∃ root, (recordBase components chain reference).outcome = .ok (some root) := by
  fun_induction Contribution.gather pending c with
  | case1 c => exact fun reference hmem ↦ .inl hmem
  | case2 c e pending identifier raw hshape ih =>
    obtain ⟨hfirst, hrest⟩ := List.forall_mem_cons.1 h
    intro reference hmem
    rcases ih hrest reference hmem with hknown | hroot
    · rcases List.mem_append.1 hknown with hknown | hlast
      · exact .inl hknown
      · obtain rfl := List.mem_singleton.1 hlast
        rcases hfirst with hopen | hrecord
        · rw [TypeExpr.collapse_of_isAnything hopen] at hshape
          cases hshape
        · rw [← isRecord_collapse e, hshape] at hrecord
          exact .inr (exists_root_of_isRecord hrecord)
    · exact .inr hroot
  | case3 c e pending fields extra hshape ih =>
    exact ih (List.forall_mem_cons.1 h).2
  | case4 c e pending members hshape ih =>
    obtain ⟨hfirst, hrest⟩ := List.forall_mem_cons.1 h
    apply ih
    intro e' he'
    rcases List.mem_append.1 he' with hmember | hpending
    · rcases hfirst with hopen | hrecord
      · rw [TypeExpr.collapse_of_isAnything hopen] at hshape
        cases hshape
      · rw [← isRecord_collapse e, hshape] at hrecord
        exact forall_of_allRecords (allRecords_of_intersection hrecord) e' hmember
    · exact hrest e' hpending
  | case5 c e pending hnamed hrecord hintersection ih =>
    exact ih (List.forall_mem_cons.1 h).2

theorem exists_root_of_mem_references {members : List TypeExpr}
    (h : (isRecord components chain (.intersection members)).outcome = .ok true)
    {reference : String} (hmem : reference ∈ (Contribution.ofMembers members).references) :
    ∃ root, (recordBase components chain reference).outcome = .ok (some root) := by
  have hmembers := forall_of_allRecords (allRecords_of_intersection h)
  rcases exists_root_of_mem_gather members _ hmembers reference hmem with hnone | hroot
  · cases hnone
  · exact hroot

/-! ## Inheritance -/

/-- A component is a record that is no alias. -/
def IsRoot (components : Components) (raw : String) : Prop :=
  (recordBase components [] raw).outcome = .ok (some raw)

theorem IsRoot.mem_names {raw : String} (h : components.IsRoot raw) :
    raw ∈ components.map (·.1) := by
  obtain ⟨s, hknown, -⟩ := recordBase_cases h
  exact List.mem_map_of_mem (mem_of_lookup hknown)

/-- What a name stands for is found by a walk that has at least as many names behind it. -/
theorem exists_chain_of_recordBase {chain : List String} {raw root : String}
    (h : (recordBase components chain raw).outcome = .ok (some root)) :
    ∃ chain', chain ⊆ chain' ∧ (recordBase components chain' root).outcome = .ok (some root) := by
  obtain ⟨s, hknown, ⟨identifier, target, -, htarget⟩ | ⟨-, rfl, -⟩⟩ := recordBase_cases h
  · have hless := remaining_append_lt hknown (fresh_of_recordBase h)
    obtain ⟨chain', hsubset, hroot⟩ := exists_chain_of_recordBase htarget
    exact ⟨chain', List.Subset.trans (List.subset_append_left _ _) hsubset, hroot⟩
  · exact ⟨chain, List.Subset.refl _, h⟩
termination_by components.remaining chain

theorem isRoot_of_recordBase {raw root : String}
    (h : (recordBase components chain raw).outcome = .ok (some root)) :
    components.IsRoot root := by
  obtain ⟨chain', -, hroot⟩ := exists_chain_of_recordBase h
  exact recordBase_of_subset (List.nil_subset _) hroot

/-- A root is known, it is no alias, and its type is a record after it. -/
theorem of_recordBase_self {root : String}
    (h : (recordBase components chain root).outcome = .ok (some root)) :
    ∃ s, components.lookup root = some s ∧
      (∀ identifier target, shape s ≠ .named identifier target) ∧
      (isRecord components (chain ++ [root]) (shape s)).outcome = .ok true := by
  obtain ⟨s, hknown, ⟨identifier, target, -, htarget⟩ | ⟨hshape, -, hrecord⟩⟩ := recordBase_cases h
  · obtain ⟨chain', hsubset, hroot⟩ := exists_chain_of_recordBase htarget
    exact absurd (hsubset (List.mem_append_right _ (List.mem_singleton_self root)))
      (fresh_of_recordBase hroot)
  · exact ⟨s, hknown, hshape, hrecord⟩

/-- A record component has a reference among its members that stands for another one. -/
structure Derives (components : Components) (raw base : String) : Prop where
  isRoot : components.IsRoot raw
  refers : ∃ s identify members reference, components.lookup raw = some s ∧
    (shape s).relabel identify = .intersection members ∧
    reference ∈ (Contribution.ofMembers members).references ∧
    (recordBase components [] reference).outcome = .ok (some base)

/-- What a record is derived from is a record. -/
theorem Derives.isRoot_base {raw base : String} (h : components.Derives raw base) :
    components.IsRoot base := by
  obtain ⟨s, identify, members, reference, -, -, -, hbase⟩ := h.refers
  exact isRoot_of_recordBase hbase

/-- A record that another one is derived from is found after it. -/
theorem Derives.exists_chain {raw base : String} (h : components.Derives raw base)
    (hraw : (recordBase components chain raw).outcome = .ok (some raw)) :
    ∃ chain', chain ++ [raw] ⊆ chain' ∧
      (recordBase components chain' base).outcome = .ok (some base) := by
  obtain ⟨s, identify, members, reference, hknown, hshape, hmem, hbase⟩ := h.refers
  obtain ⟨s', hknown', -, hrecord⟩ := of_recordBase_self hraw
  obtain rfl : s = s' := Option.some.inj (hknown.symm.trans hknown')
  rw [← isRecord_relabel identify, hshape] at hrecord
  obtain ⟨root, hroot⟩ := exists_root_of_mem_references hrecord hmem
  have hsame := hbase.symm.trans (recordBase_of_subset (List.nil_subset _) hroot)
  obtain rfl : base = root := Option.some.inj (Except.ok.inj hsame)
  exact exists_chain_of_recordBase hroot

/-- No record is derived from itself, be it along others. -/
theorem not_derives_self (raw : String) : ¬ Relation.TransGen components.Derives raw raw := by
  have hbehind : ∀ {base}, Relation.TransGen components.Derives raw base → ∃ chain, raw ∈ chain ∧
      (recordBase components chain base).outcome = .ok (some base) := by
    intro base hderives
    induction hderives with
    | single hstep =>
      obtain ⟨chain, hsubset, hbase⟩ := hstep.exists_chain hstep.isRoot
      exact ⟨chain, hsubset (List.mem_append_right _ (List.mem_singleton_self raw)), hbase⟩
    | tail _ hstep ih =>
      obtain ⟨chain, hmem, hmid⟩ := ih
      obtain ⟨chain', hsubset, hbase⟩ := hstep.exists_chain hmid
      exact ⟨chain', hsubset (List.mem_append_left _ hmem), hbase⟩
  intro hcycle
  obtain ⟨chain, hmem, hraw⟩ := hbehind hcycle
  exact fresh_of_recordBase hraw hmem

end Components

end ApiClient

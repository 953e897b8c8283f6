import ApiClient.Proofs.Ancestry
import Mathlib.Data.List.Chain

/-!
# Chains of references

A component refers to a name by being an alias of it or by having it among the members of its
intersections. A walk calls itself along these references, with the names that it came by as a
chain, and fails just if it comes to a name of the chain again. Each call has more names behind it
or a smaller type than the one that makes it, so there are no infinite walks. And the chain of a
call only ever holds names that refer to one another in order, so a chain that is reported shows a
cycle of references.
-/

namespace ApiClient

namespace Walk

variable {α β : Type}

theorem outcome_bind_of_error {w : Walk α} {chain : List String} (h : w.outcome = .error chain)
    (f : α → Walk β) : (w >>= f).outcome = .error chain := by
  change (Walk.bind w f).outcome = _
  unfold Walk.bind
  rw [h]

end Walk

namespace Components

open Relation

variable {components : Components}

/-- A component is an alias of a name, or has it among the members of its intersections. -/
def Refers (components : Components) (raw target : String) : Prop :=
  ∃ s, components.lookup raw = some s ∧ s.Within (.reference target)

/-! ## Calls -/

/-- A call of the walk with the names behind it: what a name stands for, or whether a type is a
record. -/
inductive Call where
  | base (chain : List String) (raw : String)
  | record (chain : List String) (e : TypeExpr)

namespace Call

/-- The call fails and reports a chain. -/
def Fails (components : Components) : Call → List String → Prop
  | base chain raw, reported => (recordBase components chain raw).outcome = .error reported
  | record chain e, reported => (isRecord components chain e).outcome = .error reported

theorem fails_base {chain : List String} {raw : String} {reported : List String} :
    Fails components (base chain raw) reported ↔
      (recordBase components chain raw).outcome = .error reported := Iff.rfl

theorem fails_record {chain : List String} {e : TypeExpr} {reported : List String} :
    Fails components (record chain e) reported ↔
      (isRecord components chain e).outcome = .error reported := Iff.rfl

/-- The calls that a call makes. A member of an intersection is asked for when it is not open and
those before it are open or turned out to be records. -/
inductive Makes (components : Components) : Call → Call → Prop
  | follow {chain raw s identifier target} : raw ∉ chain → components.lookup raw = some s →
      shape s = .named identifier target →
      Makes components (base chain raw) (base (chain ++ [raw]) target)
  | shape {chain raw s} : raw ∉ chain → components.lookup raw = some s →
      (∀ identifier target, shape s ≠ .named identifier target) →
      Makes components (base chain raw) (record (chain ++ [raw]) (shape s))
  | reference {chain identifier raw} :
      Makes components (record chain (.named identifier raw)) (base chain raw)
  | member {chain before e after} : e.isAnything = false →
      (∀ d ∈ before, d.isAnything = true ∨ (isRecord components chain d).outcome = .ok true) →
      Makes components (record chain (.intersection (before ++ e :: after))) (record chain e)

/-! ## Termination -/

/-- The number of components that are not behind a call, and the size of its type. -/
def rank (components : Components) : Call → ℕ × ℕ
  | base chain _ => (components.remaining chain, 0)
  | record chain e => (components.remaining chain, e.size)

theorem sizeOfAll_member (before : List TypeExpr) (e : TypeExpr) (after : List TypeExpr) :
    e.size ≤ TypeExpr.sizeOfAll (before ++ e :: after) := by
  rw [TypeExpr.sizeOfAll_append, TypeExpr.sizeOfAll]
  omega

theorem rank_lt_of_makes {q q' : Call} (h : Makes components q q') :
    Prod.Lex (· < ·) (· < ·) (rank components q') (rank components q) := by
  cases h with
  | follow hfresh hknown => exact .left _ _ (remaining_append_lt hknown hfresh)
  | shape hfresh hknown => exact .left _ _ (remaining_append_lt hknown hfresh)
  | reference => exact .right _ (TypeExpr.size_pos _)
  | @member chain before e after =>
    refine .right _ ?_
    have hmember := sizeOfAll_member before e after
    rw [TypeExpr.size]
    omega

/-- No call makes calls without end. -/
theorem wellFounded_makes (components : Components) :
    WellFounded fun q' q ↦ Makes components q q' :=
  Subrelation.wf (fun hmakes ↦ rank_lt_of_makes hmakes)
    (InvImage.wf (rank components) (WellFounded.prod_lex Nat.lt_wfRel.wf Nat.lt_wfRel.wf))

/-! ## Failure -/

theorem fails_base_of_mem {chain : List String} {raw : String} (h : raw ∈ chain)
    {reported : List String} :
    Fails components (base chain raw) reported ↔ reported = chain ++ [raw] := by
  rw [fails_base, recordBase, dif_pos h]
  exact ⟨fun hfails ↦ (Except.error.inj hfails).symm, fun hsame ↦ hsame ▸ rfl⟩

/-- Where no name is met again, a call for a name fails with the call that it makes. -/
theorem fails_base_of_fresh {chain : List String} {raw : String} (h : raw ∉ chain)
    {reported : List String} :
    Fails components (base chain raw) reported ↔
      ∃ q, Makes components (base chain raw) q ∧ Fails components q reported := by
  cases hknown : components.lookup raw with
  | none =>
    rw [fails_base, recordBase_of_unknown h hknown]
    refine iff_of_false (fun hfails ↦ by cases hfails) ?_
    rintro ⟨q, hmakes, -⟩
    cases hmakes with
    | follow _ hknown' => exact absurd (hknown.symm.trans hknown') (by simp)
    | shape _ hknown' => exact absurd (hknown.symm.trans hknown') (by simp)
  | some s =>
    by_cases halias : ∃ identifier target, Components.shape s = .named identifier target
    · obtain ⟨identifier, target, hshape⟩ := halias
      have hsame : Fails components (base chain raw) reported ↔
          Fails components (base (chain ++ [raw]) target) reported := by
        rw [fails_base, fails_base, recordBase_of_alias h hknown hshape]
      rw [hsame]
      refine ⟨fun hfails ↦ ⟨_, .follow h hknown hshape, hfails⟩, ?_⟩
      rintro ⟨q, hmakes, hfails⟩
      cases hmakes with
      | follow _ hknown' hshape' =>
        obtain rfl := Option.some.inj (hknown.symm.trans hknown')
        cases hshape.symm.trans hshape'
        exact hfails
      | shape _ hknown' hother =>
        obtain rfl := Option.some.inj (hknown.symm.trans hknown')
        exact absurd hshape (hother _ _)
    · push Not at halias
      have hsame : Fails components (base chain raw) reported ↔
          Fails components (record (chain ++ [raw]) (Components.shape s)) reported := by
        rw [fails_base, fails_record, recordBase_of_shape h hknown halias]
        cases (isRecord components (chain ++ [raw]) (Components.shape s)).outcome with
        | error reported' => exact Iff.of_eq (by simp [Except.map])
        | ok found => exact Iff.of_eq (by simp [Except.map])
      rw [hsame]
      refine ⟨fun hfails ↦ ⟨_, .shape h hknown halias, hfails⟩, ?_⟩
      rintro ⟨q, hmakes, hfails⟩
      cases hmakes with
      | follow _ hknown' hshape =>
        obtain rfl := Option.some.inj (hknown.symm.trans hknown')
        exact absurd hshape (halias _ _)
      | shape _ hknown' =>
        obtain rfl := Option.some.inj (hknown.symm.trans hknown')
        exact hfails

/-- The question whether all members are records fails with the first member for which it is asked
and fails. -/
theorem error_of_allRecords {chain reported : List String} {es : List TypeExpr}
    (h : (allRecords components chain es).outcome = .error reported) :
    ∃ before e after, es = before ++ e :: after ∧ e.isAnything = false ∧
      (∀ d ∈ before, d.isAnything = true ∨ (isRecord components chain d).outcome = .ok true) ∧
      (isRecord components chain e).outcome = .error reported := by
  induction es with
  | nil =>
    rw [allRecords] at h
    cases h
  | cons e es ih =>
    have hlater : (e.isAnything = true ∨ (isRecord components chain e).outcome = .ok true) →
        (allRecords components chain es).outcome = .error reported →
        ∃ before e' after, e :: es = before ++ e' :: after ∧ e'.isAnything = false ∧
          (∀ d ∈ before, d.isAnything = true ∨
            (isRecord components chain d).outcome = .ok true) ∧
          (isRecord components chain e').outcome = .error reported := by
      intro hfirst hrest
      obtain ⟨before, e', after, rfl, hclosed, hbefore, hfails⟩ := ih hrest
      exact ⟨e :: before, e', after, rfl, hclosed, List.forall_mem_cons.2 ⟨hfirst, hbefore⟩,
        hfails⟩
    rw [allRecords] at h
    split at h
    · next hopen => exact hlater (.inl hopen) h
    · next hopen =>
      cases hrecord : (isRecord components chain e).outcome with
      | error reported' =>
        rw [Walk.outcome_bind_of_error hrecord] at h
        cases h
        exact ⟨[], e, es, rfl, by simpa using hopen, fun d hd ↦ absurd hd List.not_mem_nil,
          hrecord⟩
      | ok found =>
        rw [Walk.outcome_bind_of_ok hrecord] at h
        cases found with
        | false => cases h
        | true => exact hlater (.inr hrecord) h

theorem allRecords_of_before {chain : List String} {before es : List TypeExpr}
    (h : ∀ d ∈ before, d.isAnything = true ∨ (isRecord components chain d).outcome = .ok true) :
    (allRecords components chain (before ++ es)).outcome =
      (allRecords components chain es).outcome := by
  induction before with
  | nil => rfl
  | cons d before ih =>
    obtain ⟨hfirst, hrest⟩ := List.forall_mem_cons.1 h
    rw [List.cons_append, allRecords]
    split
    · exact ih hrest
    · next hopen =>
      rw [Walk.outcome_bind_of_ok (hfirst.resolve_left hopen)]
      exact ih hrest

/-- A call for a type fails with a call that it makes. -/
theorem fails_record_iff {chain : List String} {e : TypeExpr} {reported : List String} :
    Fails components (record chain e) reported ↔
      ∃ q, Makes components (record chain e) q ∧ Fails components q reported := by
  constructor
  · intro hfails
    rw [fails_record] at hfails
    match e with
    | .named identifier raw =>
      rw [outcome_isRecord_named] at hfails
      cases hbase : (recordBase components chain raw).outcome with
      | error reported' =>
        rw [hbase] at hfails
        cases hfails
        exact ⟨_, .reference, hbase⟩
      | ok found =>
        rw [hbase] at hfails
        cases hfails
    | .intersection members =>
      rw [isRecord] at hfails
      split at hfails
      · cases hfails
      · obtain ⟨before, e, after, rfl, hclosed, hbefore, hfails⟩ := error_of_allRecords hfails
        exact ⟨_, .member hclosed hbefore, hfails⟩
    | .record _ _ | .anything | .binary | .scalar _ | .literal _ | .sequence _ | .union _ =>
      simp only [isRecord] at hfails
      cases hfails
  · rintro ⟨q, hmakes, hfails⟩
    cases hmakes with
    | reference =>
      rw [fails_base] at hfails
      rw [fails_record, outcome_isRecord_named, hfails]
      rfl
    | @member _ before e after hclosed hbefore =>
      rw [fails_record] at hfails
      have hsome : ¬ (before ++ e :: after).all TypeExpr.isAnything = true := by
        simp [hclosed]
      rw [fails_record, isRecord, if_neg hsome, allRecords_of_before hbefore, allRecords, hclosed,
        if_neg Bool.false_ne_true, Walk.outcome_bind_of_error hfails]

/-- A call fails for a name that is behind it already, or with a call that it makes. -/
theorem fails_iff {q : Call} {reported : List String} :
    Fails components q reported ↔
      (∃ chain raw, q = base chain raw ∧ raw ∈ chain ∧ reported = chain ++ [raw]) ∨
      ∃ q', Makes components q q' ∧ Fails components q' reported := by
  cases q with
  | record chain e => simp [fails_record_iff (e := e)]
  | base chain raw =>
    by_cases hmem : raw ∈ chain
    · rw [fails_base_of_mem hmem]
      refine ⟨fun hsame ↦ .inl ⟨chain, raw, rfl, hmem, hsame⟩, ?_⟩
      rintro (⟨chain', raw', hsame, -, rfl⟩ | ⟨q', hmakes, -⟩)
      · cases hsame
        rfl
      · cases hmakes with
        | follow hfresh => exact absurd hmem hfresh
        | shape hfresh => exact absurd hmem hfresh
    · rw [fails_base_of_fresh hmem]
      refine ⟨.inr, ?_⟩
      rintro (⟨chain', raw', hsame, hmem', -⟩ | hmakes)
      · cases hsame
        exact absurd hmem' hmem
      · exact hmakes

end Call

/-! ## Chains -/

/-- A list of names that begins with `n`, each of which refers to the next. -/
structure Links (components : Components) (n : String) (names : List String) : Prop where
  first : names.head? = some n
  linked : names.IsChain (Refers components)

/-- A list of links that returns to itself: the last name, and no other, occurs before. -/
structure Closes (components : Components) (n : String) (reported : List String) : Prop
    extends Links components n reported where
  closed : ∃ names last, reported = names ++ [last] ∧ last ∈ names ∧ names.Nodup

theorem links_singleton (n : String) : Links components n [n] where
  first := rfl
  linked := .singleton n

theorem Links.snoc {n a target : String} {names : List String}
    (h : Links components n (names ++ [a])) (hrefers : Refers components a target) :
    Links components n (names ++ [a] ++ [target]) where
  first := by
    rw [List.head?_append, h.first]
    rfl
  linked := by
    refine List.isChain_append.2 ⟨h.linked, .singleton target, fun x hx y hy ↦ ?_⟩
    rw [List.getLast?_concat, Option.mem_some_iff] at hx
    rw [List.head?_singleton, Option.mem_some_iff] at hy
    exact hx ▸ hy ▸ hrefers

/-- The first name comes to every other one along references, and so does every name that occurs
twice to itself. -/
theorem Closes.cycle {n : String} {reported : List String} (h : Closes components n reported) :
    ∃ m, ReflTransGen (Refers components) n m ∧ TransGen (Refers components) m m := by
  obtain ⟨names, last, rfl, hlast, -⟩ := h.closed
  have hpairwise : (names ++ [last]).Pairwise (TransGen (Refers components)) :=
    (h.linked.imp fun _ _ hrefers ↦ TransGen.single hrefers).pairwise
  have hbefore := (List.pairwise_append.1 hpairwise).2.2
  have hn : n ∈ names := by
    cases names with
    | nil => cases hlast
    | cons a names =>
      obtain rfl : a = n := Option.some.inj h.first
      exact List.mem_cons_self
  have hself := List.mem_singleton_self last
  exact ⟨last, (hbefore n hn last hself).to_reflTransGen, hbefore last hlast last hself⟩

namespace Call

/-- The names behind a call are links, and what the call is about is referred to by the last of
them. -/
def Traced (components : Components) (n : String) : Call → Prop
  | base chain raw => Links components n (chain ++ [raw]) ∧ chain.Nodup
  | record chain e => Links components n chain ∧ chain.Nodup ∧
      ∃ names a, chain = names ++ [a] ∧ ∀ target ∈ e.parents, Refers components a target

theorem nodup_concat {chain : List String} {raw : String} (h : chain.Nodup) (hfresh : raw ∉ chain) :
    (chain ++ [raw]).Nodup :=
  h.append (List.nodup_singleton raw) (List.disjoint_singleton.2 hfresh)

/-- One call leads to another whose names are links as well. -/
theorem Traced.makes {n : String} {q q' : Call} (h : Traced components n q)
    (hmakes : Makes components q q') : Traced components n q' := by
  cases hmakes with
  | @follow chain raw s identifier target hfresh hknown hshape =>
    obtain ⟨hlinks, hnodup⟩ := h
    have hwithin : s.Within (.reference target) := by
      rw [← mem_parents_shape, hshape]
      exact List.mem_singleton_self target
    exact ⟨hlinks.snoc ⟨s, hknown, hwithin⟩, nodup_concat hnodup hfresh⟩
  | @shape chain raw s hfresh hknown =>
    obtain ⟨hlinks, hnodup⟩ := h
    exact ⟨hlinks, nodup_concat hnodup hfresh, chain, raw, rfl,
      fun target htarget ↦ ⟨s, hknown, mem_parents_shape.1 htarget⟩⟩
  | @reference chain identifier raw =>
    obtain ⟨hlinks, hnodup, names, a, rfl, hparents⟩ := h
    exact ⟨hlinks.snoc (hparents raw (List.mem_singleton_self raw)), hnodup⟩
  | @member chain before e after =>
    obtain ⟨hlinks, hnodup, names, a, hchain, hparents⟩ := h
    refine ⟨hlinks, hnodup, names, a, hchain, fun target htarget ↦ hparents target ?_⟩
    rw [TypeExpr.mem_parents] at htarget ⊢
    obtain ⟨identifier, hleaf⟩ := htarget
    refine ⟨identifier, ?_⟩
    rw [TypeExpr.leaves, TypeExpr.leavesOfAll_append, TypeExpr.leavesOfAll]
    exact List.mem_append_right _ (List.mem_append_left _ hleaf)

/-- So do all calls that are made from a call for `n`. -/
theorem traced_of_makes {n : String} {q : Call}
    (h : ReflTransGen (Makes components) (base [] n) q) : Traced components n q := by
  induction h with
  | refl => exact ⟨links_singleton n, List.nodup_nil⟩
  | tail _ hmakes ih => exact ih.makes hmakes

/-- A call that fails reports links that return to themselves. -/
theorem Traced.closes {n : String} {q : Call} (h : Traced components n q) {reported : List String}
    (hfails : Fails components q reported) : Closes components n reported := by
  induction q using (wellFounded_makes components).induction with
  | h q ih =>
    rcases fails_iff.1 hfails with ⟨chain, raw, rfl, hmem, rfl⟩ | ⟨q', hmakes, hfails'⟩
    · obtain ⟨hlinks, hnodup⟩ := h
      exact { hlinks with closed := ⟨chain, raw, rfl, hmem, hnodup⟩ }
    · exact ih q' hmakes (h.makes hmakes) hfails'

/-- A call fails with each of those that are made from it. -/
theorem fails_of_makes {q q' : Call} (h : ReflTransGen (Makes components) q q')
    {reported : List String} (hfails : Fails components q' reported) :
    Fails components q reported := by
  induction h using ReflTransGen.head_induction_on with
  | refl => exact hfails
  | head hmakes _ ih => exact fails_iff.2 (.inr ⟨_, hmakes, ih⟩)

theorem closes_of_fails {n : String} {reported : List String}
    (h : Fails components (base [] n) reported) : Closes components n reported :=
  Traced.closes (traced_of_makes .refl) h

end Call

theorem exists_ok_of_forall {ε α : Type} {x : Except ε α} (h : ∀ e, x ≠ .error e) :
    ∃ a, x = .ok a := by
  cases x with
  | error e => exact absurd rfl (h e)
  | ok a => exact ⟨a, rfl⟩

/-- Calls are not made without end. What a name stands for is found out, or a list of names is
reported that begins with this name, each of which refers to the next, and the last of which occurs
before. If no name that is met along references comes back to itself, it is found out. The same
holds for each call that is made on the way to tell whether a type is a record: what it reports is
what the whole walk reports. -/
theorem recordBase_ends (components : Components) (n : String) :
    (WellFounded fun q' q ↦ Call.Makes components q q') ∧
    (∀ reported, (recordBase components [] n).outcome = .error reported →
      Closes components n reported) ∧
    (∀ chain e, ReflTransGen (Call.Makes components) (.base [] n) (.record chain e) →
      ∀ reported, (isRecord components chain e).outcome = .error reported →
        (recordBase components [] n).outcome = .error reported ∧
          Closes components n reported) ∧
    ((∀ m, ReflTransGen (Refers components) n m → ¬ TransGen (Refers components) m m) →
      (∃ found, (recordBase components [] n).outcome = .ok found) ∧
      ∀ chain e, ReflTransGen (Call.Makes components) (.base [] n) (.record chain e) →
        ∃ found, (isRecord components chain e).outcome = .ok found) := by
  have hwhole : ∀ {chain e}, ReflTransGen (Call.Makes components) (.base [] n) (.record chain e) →
      ∀ {reported}, (isRecord components chain e).outcome = .error reported →
        (recordBase components [] n).outcome = .error reported :=
    fun hmakes _ hfails ↦ Call.fails_of_makes hmakes (Call.fails_record.2 hfails)
  refine ⟨Call.wellFounded_makes components, fun _ ↦ Call.closes_of_fails,
    fun chain e hmakes reported hfails ↦ ?_, fun hacyclic ↦ ?_⟩
  · exact ⟨hwhole hmakes hfails, Call.closes_of_fails (hwhole hmakes hfails)⟩
  · have hnone : ∀ reported, (recordBase components [] n).outcome ≠ .error reported := by
      intro reported hfails
      obtain ⟨m, hreach, hcycle⟩ := (Call.closes_of_fails hfails).cycle
      exact hacyclic m hreach hcycle
    exact ⟨exists_ok_of_forall hnone, fun chain e hmakes ↦
      exists_ok_of_forall fun reported hfails ↦ hnone reported (hwhole hmakes hfails)⟩

/-- Two ways from a component lead to the same one. -/
def branching : Components :=
  let own : Schema := .object [⟨"x", true, .anything⟩] none
  [("Pet", .allOf [.reference "Left", .reference "Right"]),
    ("Left", .allOf [.allOf [.reference "Base", .anything], own]), ("Right", .reference "Base"),
    ("Base", own)]

/-- An alias leads to two components that are composed of each other. -/
def returning : Components :=
  let own : Schema := .object [⟨"x", true, .anything⟩] none
  [("Pet", .reference "Left"), ("Left", .allOf [own, .reference "Right"]),
    ("Right", .allOf [.allOf [.reference "Left", own], own])]

/-- References lead down the ranks. -/
theorem acyclic_branching (m : String) : ¬ TransGen (Refers branching) m m := by
  let rank := fun name : String ↦ ["Base", "Right", "Left", "Pet"].idxOf name
  have hdown : ∀ c ∈ branching, ∀ target ∈ (shape c.2).parents, rank target < rank c.1 := by
    decide +kernel
  have hrefers : ∀ {a b}, TransGen (Refers branching) a b → rank b < rank a := by
    intro a b hrefers
    have hstep : ∀ {a b}, Refers branching a b → rank b < rank a := by
      rintro a b ⟨s, hknown, hwithin⟩
      exact hdown (a, s) (mem_of_lookup hknown) b (mem_parents_shape.2 hwithin)
    induction hrefers with
    | single h => exact hstep h
    | tail _ h ih => exact (hstep h).trans ih
  exact fun hcycle ↦ Nat.lt_irrefl _ (hrefers hcycle)

theorem recordBase_returning :
    (recordBase returning [] "Pet").outcome = .error ["Pet", "Left", "Right", "Left"] ∧
      Closes returning "Pet" ["Pet", "Left", "Right", "Left"] ∧
      (∀ m, ReflTransGen (Refers branching) "Pet" m → ¬ TransGen (Refers branching) m m) ∧
      ∃ found, (recordBase branching [] "Pet").outcome = .ok found := by
  have hreported : (recordBase returning [] "Pet").outcome =
      .error ["Pet", "Left", "Right", "Left"] := by decide +kernel
  have hacyclic : ∀ m, ReflTransGen (Refers branching) "Pet" m →
      ¬ TransGen (Refers branching) m m := fun m _ ↦ acyclic_branching m
  exact ⟨hreported, (recordBase_ends returning "Pet").2.1 _ hreported, hacyclic,
    ((recordBase_ends branching "Pet").2.2.2 hacyclic).1⟩

end Components

end ApiClient

import ApiClient.Proofs.Draft.Bases
import ApiClient.Proofs.Grouping.Stability
import Mathlib.Computability.StateTransition

/-!
# Flattening an intersection

The members of an intersection of records are merged in a loop. It takes the first pending member
off a list, reduces it and adds what it gives, or puts the members of an intersection in front of
the list. So the list may grow, but the pending types get smaller together, and the loop ends. What
it comes to never changes on the way: it is what the leaves of the pending members add, from left to
right, to what was merged before. The class is declared from just what the loop ends with.
-/

namespace ApiClient

open Work Draft Drafting TypeExpr

variable {components : Components}

/-! ## Leaves of a record -/

namespace TypeExpr

/-- The type of further keys that a record gives. -/
def ownExtra : TypeExpr → Option TypeExpr
  | record _ extra => extra
  | _ => none

/-- The first leaf gives the type of further keys only if no other one does. -/
theorem getLast?_ownExtra_cons (leaf : TypeExpr) (leaves : List TypeExpr) (extra : Option TypeExpr) :
    ((leaf :: leaves).filterMap ownExtra).getLast?.or extra =
      (leaves.filterMap ownExtra).getLast?.or (leaf.ownExtra.or extra) := by
  cases hown : leaf.ownExtra with
  | none => rw [List.filterMap_cons_none hown, Option.none_or]
  | some own =>
    rw [List.filterMap_cons_some hown, List.getLast?_cons]
    cases (leaves.filterMap ownExtra).getLast? <;> rfl

/-- What a record can be composed of: a reference that stands for a record, or fields. -/
inductive IsPart (components : Components) : TypeExpr → Prop
  | reference {identifier raw root} : (components.recordBase [] raw).outcome = .ok (some root) →
      IsPart components (.named identifier raw)
  | fields {f fs extra} : IsPart components (.record (f :: fs) extra)

mutual

theorem isPart_of_mem_leaves (e : TypeExpr) (h : (components.isRecord [] e).outcome = .ok true) :
    ∀ leaf ∈ e.leaves, IsPart components leaf := by
  match e with
  | intersection members =>
    rw [leaves]
    exact isPart_of_mem_leavesOfAll members
      (Components.forall_of_allRecords (Components.allRecords_of_intersection h))
  | named identifier raw =>
    obtain ⟨root, hroot⟩ := Components.exists_root_of_isRecord h
    simp only [leaves, List.mem_singleton, forall_eq]
    exact .reference hroot
  | record (f :: fs) extra =>
    simp only [leaves, List.mem_singleton, forall_eq]
    exact .fields
  | record [] _ | anything | binary | scalar _ | literal _ | sequence _ | union _ =>
    simp only [Components.isRecord] at h
    cases h

theorem isPart_of_mem_leavesOfAll (es : List TypeExpr)
    (h : ∀ e ∈ es, e.isAnything = true ∨ (components.isRecord [] e).outcome = .ok true) :
    ∀ leaf ∈ leavesOfAll es, IsPart components leaf := by
  match es with
  | [] =>
    rw [leavesOfAll]
    exact fun leaf hleaf ↦ absurd hleaf List.not_mem_nil
  | e :: es =>
    obtain ⟨hfirst, hrest⟩ := List.forall_mem_cons.1 h
    rw [leavesOfAll, List.forall_mem_append]
    refine ⟨?_, isPart_of_mem_leavesOfAll es hrest⟩
    rcases hfirst with hopen | hrecord
    · rw [leaves_of_isAnything hopen]
      exact fun leaf hleaf ↦ absurd hleaf List.not_mem_nil
    · exact isPart_of_mem_leaves e hrecord

end

theorem exists_root_of_isPart {leaves : List TypeExpr}
    (h : ∀ leaf ∈ leaves, IsPart components leaf) :
    ∀ raw ∈ leaves.filterMap reference?,
      ∃ root, (components.recordBase [] raw).outcome = .ok (some root) := by
  intro raw hraw
  obtain ⟨leaf, hleaf, hreference⟩ := List.mem_filterMap.1 hraw
  cases h leaf hleaf with
  | @reference identifier _ root hroot =>
    obtain rfl := Option.some.inj hreference
    exact ⟨root, hroot⟩
  | fields => cases hreference

end TypeExpr

namespace Contribution

theorem extra_add (c : Contribution) (leaf : TypeExpr) :
    (c.add leaf).extra = leaf.ownExtra.or c.extra := by
  cases leaf <;> simp [add, ownExtra]

theorem extra_foldl_add (leaves : List TypeExpr) (c : Contribution) :
    (leaves.foldl add c).extra = (leaves.filterMap ownExtra).getLast?.or c.extra := by
  induction leaves generalizing c with
  | nil => rfl
  | cons leaf leaves ih => rw [List.foldl_cons, ih, extra_add, getLast?_ownExtra_cons]

theorem extra_ofMembers (members : List TypeExpr) : (ofMembers members).extra =
    ((TypeExpr.intersection members).leaves.filterMap ownExtra).getLast? := by
  rw [ofMembers, gather_eq_foldl, extra_foldl_add, Option.or_none, leaves]

end Contribution

/-! ## Bases of references -/

namespace Drafting

/-- A reference stands for a record whose class has this name. -/
def IsClassOf (components : Components) (registry : Name.Registry) (reference name : String) :
    Prop :=
  ∃ root, (components.recordBase [] reference).outcome = .ok (some root) ∧
    registry.identifier? root = some name

theorem IsClassOf.identifier?_root {registry : Name.Registry} {reference name root : String}
    (h : IsClassOf components registry reference name)
    (hroot : (components.recordBase [] reference).outcome = .ok (some root)) :
    registry.identifier? root = some name := by
  obtain ⟨root', hroot', hname⟩ := h
  cases hroot.symm.trans hroot'
  exact hname

/-- Adds a base, unless it is one already. -/
def addBase (bases : List String) (base : String) : List String :=
  if bases.contains base then bases else bases ++ [base]

theorem foldl_addBase (classes : List String) : classes.foldl addBase [] = classes.eraseDups := by
  induction classes using List.reverseRecOn with
  | nil => simp
  | append_singleton classes base ih =>
    rw [List.foldl_concat, ih, addBase, eraseDups_concat]
    simp only [List.contains_iff_mem, List.mem_eraseDups]

/-- The first reference is looked up before the other ones. -/
theorem basesOf_cons (raw : String) (raws bases : List String) :
    basesOf components (raw :: raws) bases =
      basesOf components [raw] bases >>= basesOf components raws := by
  simp only [basesOf, bind_assoc]
  congr 1
  funext found
  cases found with
  | none => rw [pure_bind]
  | some root => simp only [bind_assoc, pure_bind]

/-- References that stand for records add their classes one after the other. -/
theorem exec_basesOf {raws : List String}
    (h : ∀ raw ∈ raws, ∃ root, (components.recordBase [] raw).outcome = .ok (some root))
    (bases : List String) (d : Draft) :
    ∃ classes registry, d.registry.Extends registry ∧
      List.Forall₂ (IsClassOf components registry) raws classes ∧
      exec (basesOf components raws bases) d =
        (.ok (classes.foldl addBase bases), { d with registry }) := by
  induction raws generalizing bases d with
  | nil =>
    refine ⟨[], d.registry, .refl _, .nil, ?_⟩
    rw [basesOf]
    rfl
  | cons raw raws ih =>
    obtain ⟨⟨root, hroot⟩, hrest⟩ := List.forall_mem_cons.1 h
    let followed := d.registry.resolveAll (components.recordBase [] raw).met
    have hfollowed : d.registry.Extends followed := Name.Registry.extends_resolveAll _ _
    have hidentified : followed.Extends (followed.resolve root).2 :=
      Name.Registry.extends_resolve followed root
    -- the identifier of the first root is still its own when the other references are looked up
    obtain ⟨classes, registry, hextends, hclasses, hexec⟩ :=
      ih hrest (addBase bases (followed.resolve root).1)
        { d with registry := (followed.resolve root).2 }
    have hname : registry.identifier? root = some (followed.resolve root).1 :=
      hextends.assigned (Name.Registry.identifier?_resolve_self followed root)
    refine ⟨(followed.resolve root).1 :: classes, registry,
      hfollowed.trans (hidentified.trans hextends), .cons ⟨root, hroot, hname⟩ hclasses, ?_⟩
    rw [basesOf, exec_bind_of_ok (exec_follow_of_ok hroot d)]
    simp only
    rw [exec_bind_of_ok (exec_identify root _)]
    exact hexec

end Drafting

/-! ## The loop over pending members -/

/-- A loop that makes its state smaller in every round ends. -/
theorem exists_mem_eval {σ : Type} {next : σ → Option σ} (size : σ → ℕ)
    (h : ∀ s t, next s = some t → size t < size s) (s : σ) :
    ∃ last, last ∈ StateTransition.eval next s := by
  induction hsize : size s using Nat.strongRecOn generalizing s with
  | ind n ih =>
    cases hnext : next s with
    | none => exact ⟨s, StateTransition.mem_eval.2 ⟨.refl, hnext⟩⟩
    | some t =>
      obtain ⟨last, hlast⟩ := ih (size t) (hsize ▸ h s t hnext) t rfl
      refine ⟨last, ?_⟩
      rwa [StateTransition.reaches_eval (.single hnext)]

/-- The state of the loop that merges the members of an intersection: the members that are pending,
what was merged before, and the draft. -/
structure Merge where
  pending : List TypeExpr
  bases : List String
  fields : List (Field TypeExpr)
  extra : Option TypeExpr
  draft : Draft

namespace Merge

/-- Adds a reduced member that was taken off the list. A reference among the members is looked up,
which fails when it leads back to itself. -/
def add (components : Components) (m : Merge) : TypeExpr → Option Merge
  | .named _ raw =>
    match exec (basesOf components [raw] m.bases) m.draft with
    | (.ok bases, draft) => some { m with bases, draft }
    | (.error _, _) => none
  | .record fields extra =>
    some { m with fields := m.fields ++ fields, extra := extra.or m.extra }
  | .intersection members => some { m with pending := members ++ m.pending }
  | _ => some m

/-- A round of the loop, which ends when nothing is pending. -/
def next (components : Components) (m : Merge) : Option Merge :=
  match m.pending with
  | [] => none
  | e :: pending => add components { m with pending } e.collapse

/-- What was merged together with what some leaves add to it: the bases, with the draft that the
references among the leaves lead to, the fields, and the type of further keys. -/
def total (components : Components) (m : Merge) (leaves : List TypeExpr) :
    (Except Fault (List String) × Draft) × List (Field TypeExpr) × Option TypeExpr :=
  (exec (basesOf components (leaves.filterMap reference?) m.bases) m.draft,
    m.fields ++ leaves.flatMap ownFields, (leaves.filterMap ownExtra).getLast?.or m.extra)

/-- What the loop comes to from a state. -/
def goal (components : Components) (m : Merge) :
    (Except Fault (List String) × Draft) × List (Field TypeExpr) × Option TypeExpr :=
  m.total components (leavesOfAll m.pending)

variable {m m' : Merge}

theorem size_of_add {e : TypeExpr} (h : m.add components e = some m') :
    sizeOfAll m'.pending < e.size + sizeOfAll m.pending := by
  have hpos := e.size_pos
  cases e with
  | named identifier raw =>
    rw [add] at h
    split at h
    · obtain rfl := Option.some.inj h
      simp only
      omega
    · cases h
  | record fields extra =>
    obtain rfl := Option.some.inj h
    simp only
    omega
  | intersection members =>
    obtain rfl := Option.some.inj h
    simp only [sizeOfAll_append, size]
    omega
  | _ =>
    obtain rfl := Option.some.inj h
    omega

theorem goal_of_add {e : TypeExpr} (h : m.add components e = some m') :
    m'.goal components = m.total components (e.leaves ++ leavesOfAll m.pending) := by
  cases e with
  | named identifier raw =>
    rw [add] at h
    split at h
    · next bases draft hexec =>
      obtain rfl := Option.some.inj h
      have hbases := exec_bind_of_ok hexec
        (basesOf components ((leavesOfAll m.pending).filterMap reference?))
      rw [← basesOf_cons] at hbases
      simp [goal, total, leaves, reference?, ownFields, ownExtra, List.filterMap_cons, hbases]
    · cases h
  | record fields extra =>
    obtain rfl := Option.some.inj h
    simp only [goal, total, leaves, List.singleton_append, getLast?_ownExtra_cons]
    simp [reference?, ownFields, ownExtra, List.filterMap_cons]
  | intersection members =>
    obtain rfl := Option.some.inj h
    rw [goal, leaves, leavesOfAll_append]
    rfl
  | _ =>
    -- an open type has no leaf, and the other ones are leaves that give nothing
    obtain rfl := Option.some.inj h
    simp [goal, total, leaves, reference?, ownFields, ownExtra, List.filterMap_cons]

/-- A round makes the pending types smaller and does not change what the loop comes to. -/
theorem of_next (h : m.next components = some m') :
    sizeOfAll m'.pending < sizeOfAll m.pending ∧ m'.goal components = m.goal components := by
  obtain ⟨pending, bases, fields, extra, draft⟩ := m
  cases pending with
  | nil => cases h
  | cons e pending =>
    have hle := e.size_collapse_le
    have hsize := size_of_add h
    have hgoal := goal_of_add h
    rw [leaves_collapse] at hgoal
    rw [sizeOfAll]
    exact ⟨by simp only at hsize; omega, hgoal⟩

theorem goal_of_reaches (h : StateTransition.Reaches (next components) m m') :
    m'.goal components = m.goal components := by
  induction h with
  | refl => rfl
  | tail _ hnext ih => rw [(of_next hnext).2, ih]

/-- The loop is not left while something is pending and all references are found. -/
theorem pending_of_next_eq_none {out : List String} (h : m.next components = none)
    (hgoal : (m.goal components).1.1 = .ok out) : m.pending = [] := by
  obtain ⟨pending, bases, fields, extra, draft⟩ := m
  cases pending with
  | nil => rfl
  | cons e pending =>
    change add components ⟨pending, bases, fields, extra, draft⟩ e.collapse = none at h
    cases hshape : e.collapse with
    | named identifier raw =>
      rw [hshape, add] at h
      split at h
      · cases h
      · next fault draft' hexec =>
        have hfailed := exec_bind_of_error hexec
          (basesOf components ((leavesOfAll pending).filterMap reference?))
        rw [← basesOf_cons] at hfailed
        simp [goal, total, leavesOfAll, ← leaves_collapse e, hshape, leaves, reference?,
          List.filterMap_cons, hfailed] at hgoal
    | _ =>
      rw [hshape] at h
      cases h

/-- The loop ends, with nothing pending and with what it comes to. -/
theorem exists_mem_eval_next {out : List String} (hgoal : (m.goal components).1.1 = .ok out) :
    ∃ last ∈ StateTransition.eval (next components) m, last.pending = [] ∧
      m.goal components = ((.ok last.bases, last.draft), last.fields, last.extra) := by
  have hsmaller : ∀ s t, next components s = some t → sizeOfAll t.pending < sizeOfAll s.pending :=
    fun _ _ h ↦ (of_next h).1
  obtain ⟨last, hlast⟩ := exists_mem_eval (fun s ↦ sizeOfAll s.pending) hsmaller m
  obtain ⟨hreaches, hend⟩ := StateTransition.mem_eval.1 hlast
  have hkept := goal_of_reaches hreaches
  have hpending := pending_of_next_eq_none hend (by rw [hkept, hgoal])
  refine ⟨last, hlast, hpending, ?_⟩
  rw [← hkept, goal, total, hpending]
  simp [leavesOfAll, basesOf, exec_pure]

end Merge

/-! ## Rendering -/

namespace Drafting

/-- A reduced intersection that is a record is declared from what its leaves give. -/
theorem exec_render_of_bases {members : List TypeExpr} {bases : List String} {d d₁ d₂ : Draft}
    (hrecord : exec (follow (components.isRecord [] (.intersection members))) d = (.ok true, d₁))
    (hbases : exec (basesOf components
      ((TypeExpr.intersection members).leaves.filterMap reference?) []) d₁ = (.ok bases, d₂))
    {e : TypeExpr} (hshape : e.collapse = .intersection members) (raw : String) :
    exec (render components e raw) d =
      exec (declareRecord components raw ((TypeExpr.intersection members).leaves.flatMap ownFields)
        bases ((TypeExpr.intersection members).leaves.filterMap ownExtra).getLast?) d₂ := by
  have hreferences : exec (basesOf components (Contribution.ofMembers members).references []) d₁ =
      (.ok bases, d₂) := by
    rw [Contribution.references_ofMembers]
    exact hbases
  have hopens : Rendering.Opens components ⟨d, e, raw⟩ d₂ (Contribution.ofMembers members).fields
      bases (Contribution.ofMembers members).extra := .intersection hshape hrecord hreferences
  have hexec := hopens.exec_eq
  rwa [Contribution.fields_ofMembers, Contribution.extra_ofMembers] at hexec

/-- An intersection that is a record is merged by a loop that ends. The fields that it ends with are
those of the records among the leaves, one after the other. The bases are the classes of the
references among the leaves, each once and in the order of their first occurrences. The type of
further keys is that of the last leaf that gives one. There are no leaves besides records and
references. If the intersection is reduced, then its class is declared from just this. -/
theorem render_flattens (components : Components) (members : List TypeExpr)
    (hrecord : (components.isRecord [] (.intersection members)).outcome = .ok true) (d : Draft) :
    let leaves := (TypeExpr.intersection members).leaves
    (∀ leaf ∈ leaves, IsPart components leaf) ∧
    ∃ d₁, exec (follow (components.isRecord [] (.intersection members))) d = (.ok true, d₁) ∧
    ∃ last ∈ StateTransition.eval (Merge.next components) ⟨members, [], [], none, d₁⟩,
      last.pending = [] ∧
      last.fields = leaves.flatMap ownFields ∧
      (∃ classes, List.Forall₂ (IsClassOf components last.draft.registry)
        (leaves.filterMap reference?) classes ∧ last.bases = classes.eraseDups) ∧
      last.extra = (leaves.filterMap ownExtra).getLast? ∧
      ∀ e raw, e.collapse = .intersection members → exec (render components e raw) d =
        exec (declareRecord components raw last.fields last.bases last.extra) last.draft := by
  intro leaves
  have hparts : ∀ leaf ∈ leaves, IsPart components leaf := isPart_of_mem_leaves _ hrecord
  have hfollow := exec_follow_of_ok hrecord d
  let d₁ : Draft := { d with
    registry := d.registry.resolveAll (components.isRecord [] (.intersection members)).met }
  obtain ⟨classes, registry, -, hclasses, hbases⟩ :=
    exec_basesOf (exists_root_of_isPart hparts) [] d₁
  rw [foldl_addBase] at hbases
  have hleaves : leavesOfAll members = leaves := by rw [← TypeExpr.leaves]
  have hgoal : Merge.goal components ⟨members, [], [], none, d₁⟩ =
      ((.ok classes.eraseDups, { d₁ with registry }), leaves.flatMap ownFields,
        (leaves.filterMap ownExtra).getLast?) := by
    rw [Merge.goal, Merge.total, hleaves, hbases, List.nil_append, Option.or_none]
  obtain ⟨last, hlast, hpending, hend⟩ := Merge.exists_mem_eval_next (congrArg (·.1.1) hgoal)
  simp only [hgoal, Prod.mk.injEq, Except.ok.injEq] at hend
  obtain ⟨⟨hlastBases, hdraft⟩, hfields, hextra⟩ := hend
  refine ⟨hparts, d₁, hfollow, last, hlast, hpending, hfields.symm,
    ⟨classes, hdraft ▸ hclasses, hlastBases.symm⟩, hextra.symm, fun e raw hshape ↦ ?_⟩
  rw [← hlastBases, ← hdraft, ← hfields, ← hextra]
  exact exec_render_of_bases hfollow hbases hshape raw

/-- A record, an alias of it, and a record that is derived from it. -/
def kennel : Components :=
  let own : Schema := .object [⟨"name", true, .anything⟩] none
  [("Pet", own), ("Alias", .reference "Pet"), ("Dog", .allOf [.reference "Pet", own])]

/-- Members with others within them. -/
def puppyMembers : List TypeExpr :=
  let inner : TypeExpr := .intersection [.record [⟨"a", true, .binary⟩] (some .binary),
    .intersection [.named "Dog" "Dog"], .anything]
  [.named "Pet" "Pet", inner, .named "Alias" "Alias",
    .record [⟨"b", true, .binary⟩] (some .anything), .record [⟨"c", true, .binary⟩] none]

/-- The alias adds no base, and a later record without further keys leaves those of an earlier
one. -/
theorem render_flattens_nested :
    (kennel.isRecord [] (.intersection puppyMembers)).outcome = .ok true ∧
    ∃ last : Merge,
      last.fields = [⟨"a", true, .binary⟩, ⟨"b", true, .binary⟩, ⟨"c", true, .binary⟩] ∧
      (∃ pet dog, last.draft.registry.identifier? "Pet" = some pet ∧
        last.draft.registry.identifier? "Dog" = some dog ∧
        last.bases = [pet, dog, pet].eraseDups) ∧
      last.extra = some .anything ∧
      exec (render kennel (.intersection puppyMembers) "Puppy") .empty =
        exec (declareRecord kennel "Puppy" last.fields last.bases last.extra) last.draft := by
  have hrecord : (kennel.isRecord [] (.intersection puppyMembers)).outcome = .ok true := by
    decide +kernel
  obtain ⟨-, d₁, -, last, -, -, hfields, ⟨classes, hclasses, hbases⟩, hextra, hrender⟩ :=
    render_flattens kennel puppyMembers hrecord .empty
  have hreferences : (TypeExpr.intersection puppyMembers).leaves.filterMap reference? =
      ["Pet", "Dog", "Alias"] := rfl
  rw [hreferences] at hclasses
  obtain ⟨pet, _, hpet, htail, rfl⟩ := List.forall₂_cons_left_iff.1 hclasses
  obtain ⟨dog, _, hdog, hlast, rfl⟩ := List.forall₂_cons_left_iff.1 htail
  obtain ⟨again, _, hagain, hnone, rfl⟩ := List.forall₂_cons_left_iff.1 hlast
  obtain rfl := List.forall₂_nil_left_iff.1 hnone
  have hpetName : last.draft.registry.identifier? "Pet" = some pet :=
    hpet.identifier?_root (by decide +kernel)
  have hdogName : last.draft.registry.identifier? "Dog" = some dog :=
    hdog.identifier?_root (by decide +kernel)
  have hagainName : last.draft.registry.identifier? "Pet" = some again :=
    hagain.identifier?_root (by decide +kernel)
  obtain rfl := Option.some.inj (hpetName.symm.trans hagainName)
  exact ⟨hrecord, last, hfields, ⟨pet, dog, hpetName, hdogName, hbases⟩, hextra, hrender _ _ rfl⟩

end Drafting

end ApiClient

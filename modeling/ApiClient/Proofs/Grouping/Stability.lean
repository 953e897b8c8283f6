import ApiClient.Proofs.Grouping
import Mathlib.Data.List.Perm.Basic
import Mathlib.Data.List.Sigma

/-!
# Stability of groups

Operations are grouped under the identifiers of their classes, which are given out while they are
grouped, in a registry that may have given out any others before. A registry gives one raw name one
identifier and no two the same one, so the groups are those of the tags: a stable partition of the
operations, in which the parts come in the order of their first members. Members of a list are told
apart by their places in it, since one may stand in the list twice.
-/

namespace ApiClient

/-! ## Stable partitions -/

/-- A list is divided into parts without disturbing its order. The members of the parts carry their
places in the list. -/
structure StablePartition {α : Type} (xs : List α) (parts : List (List (α × ℕ)))
    (alike : α → α → Prop) : Prop where
  /-- Each member is in exactly one part, and there once. -/
  once : parts.flatten.Perm xs.zipIdx
  /-- The members of a part are in the order of the list. -/
  kept : ∀ part ∈ parts, part.Sublist xs.zipIdx
  nonempty : ∀ part ∈ parts, part ≠ []
  /-- The first members of the parts are in the order of the list. -/
  firsts : (parts.filterMap List.head?).Sublist xs.zipIdx
  together : ∀ a ∈ xs.zipIdx, ∀ b ∈ xs.zipIdx,
    (∃ part ∈ parts, a ∈ part ∧ b ∈ part) ↔ alike a.1 b.1

section

variable {α κ : Type} (key : α → κ)

theorem nodup_zipIdx (xs : List α) : xs.zipIdx.Nodup := (List.nodup_zipIdx_map_snd xs).of_map

theorem mem_map_key {xs : List α} {k : κ} :
    k ∈ xs.map key ↔ ∃ a ∈ xs.zipIdx, key a.1 = k := by
  rw [← List.zipIdx_map_fst 0 xs, List.map_map, List.mem_map, List.zipIdx_map_fst]
  rfl

variable [DecidableEq κ]

/-- The members of a list by their keys, in the order in which the keys first occur. -/
def classesBy (xs : List α) : List (List (α × ℕ)) :=
  (xs.map key).eraseDups.map fun k ↦ xs.zipIdx.filter fun a ↦ key a.1 = k

theorem eraseDups_concat (ks : List κ) (k : κ) :
    (ks ++ [k]).eraseDups = if k ∈ ks then ks.eraseDups else ks.eraseDups ++ [k] := by
  rw [List.eraseDups_append, List.removeAll, List.filter_singleton]
  split
  · next hmem => simp [hmem]
  · next hnew => simp [hnew, List.eraseDups_cons]

theorem nodup_eraseDups (ks : List κ) : ks.eraseDups.Nodup := by
  induction ks using List.reverseRecOn with
  | nil => simp
  | append_singleton ks k ih =>
    rw [eraseDups_concat]
    split
    · exact ih
    · next hnew =>
      have hlast : ks.eraseDups.Disjoint [k] := by
        rw [List.disjoint_singleton, List.mem_eraseDups]
        exact hnew
      exact ih.append (List.nodup_singleton k) hlast

theorem mem_classesBy {xs : List α} {part : List (α × ℕ)} : part ∈ classesBy key xs ↔
    ∃ a ∈ xs.zipIdx, part = xs.zipIdx.filter fun b ↦ key b.1 = key a.1 := by
  rw [classesBy, List.mem_map]
  constructor
  · rintro ⟨k, hk, rfl⟩
    obtain ⟨a, ha, rfl⟩ := (mem_map_key key).1 (List.mem_eraseDups.1 hk)
    exact ⟨a, ha, rfl⟩
  · rintro ⟨a, ha, rfl⟩
    exact ⟨key a.1, List.mem_eraseDups.2 ((mem_map_key key).2 ⟨a, ha, rfl⟩), rfl⟩

theorem mem_flatten_classesBy {xs : List α} {a : α × ℕ} :
    a ∈ (classesBy key xs).flatten ↔ a ∈ xs.zipIdx := by
  rw [List.mem_flatten]
  constructor
  · rintro ⟨part, hpart, ha⟩
    obtain ⟨b, -, rfl⟩ := (mem_classesBy key).1 hpart
    exact List.mem_of_mem_filter ha
  · intro ha
    exact ⟨_, (mem_classesBy key).2 ⟨a, ha, rfl⟩, by simp [ha]⟩

theorem nodup_flatten_classesBy (xs : List α) : (classesBy key xs).flatten.Nodup := by
  have hdisjoint : (classesBy key xs).Pairwise List.Disjoint := by
    refine List.Pairwise.map _ (fun k k' hne a ha ha' ↦ hne ?_) (nodup_eraseDups (xs.map key))
    have hkey := List.of_mem_filter ha
    have hkey' := List.of_mem_filter ha'
    exact (of_decide_eq_true hkey).symm.trans (of_decide_eq_true hkey')
  refine List.nodup_flatten.2 ⟨fun part hpart ↦ ?_, hdisjoint⟩
  obtain ⟨b, -, rfl⟩ := (mem_classesBy key).1 hpart
  exact (nodup_zipIdx xs).filter _

/-- The first member of each class, in the order of the classes. -/
theorem filterMap_head?_classesBy (xs : List α) : (classesBy key xs).filterMap List.head? =
    (xs.map key).eraseDups.filterMap fun k ↦ xs.zipIdx.find? fun a ↦ key a.1 = k := by
  rw [classesBy, List.filterMap_map]
  exact List.filterMap_congr fun k _ ↦ List.head?_filter

/-- A key that occurs has its first member where it had it, whatever follows. -/
theorem find?_zipIdx_concat {xs : List α} {k : κ} (h : k ∈ xs.map key) (x : α) :
    (xs ++ [x]).zipIdx.find? (fun a ↦ key a.1 = k) = xs.zipIdx.find? fun a ↦ key a.1 = k := by
  obtain ⟨a, ha, hkey⟩ := (mem_map_key key).1 h
  have hfound : (xs.zipIdx.find? fun a ↦ key a.1 = k).isSome = true :=
    List.find?_isSome.2 ⟨a, ha, decide_eq_true hkey⟩
  rw [List.zipIdx_append, List.find?_append, Option.or_of_isSome hfound]

theorem sublist_firsts (xs : List α) :
    ((classesBy key xs).filterMap List.head?).Sublist xs.zipIdx := by
  rw [filterMap_head?_classesBy]
  induction xs using List.reverseRecOn with
  | nil => exact List.Sublist.refl _
  | append_singleton xs x ih =>
    have hold : ((xs.map key).eraseDups.filterMap fun k ↦
        (xs ++ [x]).zipIdx.find? fun a ↦ key a.1 = k) =
        (xs.map key).eraseDups.filterMap fun k ↦ xs.zipIdx.find? fun a ↦ key a.1 = k :=
      List.filterMap_congr fun k hk ↦ find?_zipIdx_concat key (List.mem_eraseDups.1 hk) x
    rw [List.map_append, List.map_singleton, eraseDups_concat]
    split
    · rw [hold, List.zipIdx_append]
      exact ih.trans (List.sublist_append_left _ _)
    · next hnew =>
      -- the class of the new key begins with the last member
      have hnone : (xs.zipIdx.find? fun a ↦ key a.1 = key x) = none := by
        rw [List.find?_eq_none]
        intro a ha hkey
        exact hnew ((mem_map_key key).2 ⟨a, ha, of_decide_eq_true hkey⟩)
      have hlast : (xs ++ [x]).zipIdx.find? (fun a ↦ key a.1 = key x) = some (x, xs.length) := by
        rw [List.zipIdx_append, List.find?_append, hnone, Option.none_or, List.zipIdx_singleton]
        simp
      have hclass : ([key x].filterMap fun k ↦ (xs ++ [x]).zipIdx.find? fun a ↦ key a.1 = k) =
          [(x, xs.length)] := by
        simp only [List.filterMap_cons, hlast, List.filterMap_nil]
      rw [List.filterMap_append, hold, hclass, List.zipIdx_append]
      simpa using ih.append_right [(x, xs.length)]

/-- The classes of a key are a stable partition. -/
theorem stablePartition_classesBy (xs : List α) :
    StablePartition xs (classesBy key xs) fun x y ↦ key x = key y where
  once := (List.perm_ext_iff_of_nodup (nodup_flatten_classesBy key xs) (nodup_zipIdx xs)).2
    fun _ ↦ mem_flatten_classesBy key
  kept part hpart := by
    obtain ⟨b, -, rfl⟩ := (mem_classesBy key).1 hpart
    exact List.filter_sublist
  nonempty part hpart := by
    obtain ⟨b, hb, rfl⟩ := (mem_classesBy key).1 hpart
    exact List.ne_nil_of_mem (List.mem_filter.2 ⟨hb, decide_eq_true rfl⟩)
  firsts := sublist_firsts key xs
  together a ha b hb := by
    constructor
    · rintro ⟨part, hpart, hin, hin'⟩
      obtain ⟨d, -, rfl⟩ := (mem_classesBy key).1 hpart
      have hkey : key a.1 = key d.1 := of_decide_eq_true (List.mem_filter.1 hin).2
      have hkey' : key b.1 = key d.1 := of_decide_eq_true (List.mem_filter.1 hin').2
      exact hkey.trans hkey'.symm
    · intro hsame
      refine ⟨_, (mem_classesBy key).2 ⟨a, ha, rfl⟩, List.mem_filter.2 ⟨ha, decide_eq_true rfl⟩,
        List.mem_filter.2 ⟨hb, decide_eq_true hsame.symm⟩⟩

/-- The members of the classes, without their places. -/
theorem map_fst_classesBy (xs : List α) : (classesBy key xs).map (·.map Prod.fst) =
    (xs.map key).eraseDups.map fun k ↦ xs.filter fun x ↦ key x = k := by
  rw [classesBy, List.map_map]
  refine List.map_congr_left fun k _ ↦ ?_
  have hfilter := List.filter_map (f := Prod.fst) (p := fun x ↦ decide (key x = k)) (l := xs.zipIdx)
  rw [List.zipIdx_map_fst] at hfilter
  exact hfilter.symm

end

namespace StablePartition

/-- Only the members of the list count in what is alike. -/
theorem congr {α : Type} {xs : List α} {parts : List (List (α × ℕ))} {alike alike' : α → α → Prop}
    (h : StablePartition xs parts alike)
    (hsame : ∀ x ∈ xs, ∀ y ∈ xs, alike x y ↔ alike' x y) : StablePartition xs parts alike' where
  once := h.once
  kept := h.kept
  nonempty := h.nonempty
  firsts := h.firsts
  together a ha b hb :=
    (h.together a ha b hb).trans
      (hsame _ (List.fst_mem_of_mem_zipIdx ha) _ (List.fst_mem_of_mem_zipIdx hb))

end StablePartition

/-! ## Groups of operations -/

theorem Operation.rawClass_eq_iff {op op' : Operation} {tag tag' : String}
    (h : op.tag = .text tag) (h' : op'.tag = .text tag') :
    op.rawClass = op'.rawClass ↔ op.tag = op'.tag := by
  rw [Operation.rawClass, Operation.rawClass, h, h', String.append_left_inj, Value.text.injEq]
  rfl

namespace Group

variable {registry : Name.Registry}

theorem sound_ofOperations (h : registry.Sound) (ops : List Operation) :
    (ofOperations ops registry).2.Sound := by
  induction ops using List.reverseRecOn with
  | nil => exact h
  | append_singleton ops op ih =>
    rw [ofOperations_concat]
    exact ih.resolve op.rawClass

/-- The class of every operation has been named. -/
theorem identifier?_ofOperations {ops : List Operation} {raw : String}
    (h : raw ∈ ops.map (·.rawClass)) : (ofOperations ops registry).2.identifier? raw =
      some ((ofOperations ops registry).2.resolve raw).1 := by
  obtain ⟨op, hop, rfl⟩ := List.mem_map.1 h
  obtain ⟨g, -, hin⟩ := (grouped_ofOperations ops registry).covered op hop
  have hname := Operation.isIn_iff.1 hin
  rw [Name.Registry.resolve_of_assigned hname, hname]

/-- Another operation joins a group just if its class occurred before, since no two classes share a
name. -/
theorem any_name_iff (h : registry.Sound) {ops : List Operation}
    (hnames : (ofOperations ops registry).1.map (·.name) =
      (ops.map (·.rawClass)).eraseDups.map
        fun raw ↦ ((ofOperations ops registry).2.resolve raw).1) (raw : String) :
    (ofOperations ops registry).1.any
        (·.name = ((ofOperations ops registry).2.resolve raw).1) = true ↔
      raw ∈ ops.map (·.rawClass) := by
  let named := (ofOperations ops registry).2
  calc (ofOperations ops registry).1.any (·.name = (named.resolve raw).1) = true
      ↔ (named.resolve raw).1 ∈ (ofOperations ops registry).1.map (·.name) := by
        simp [List.any_eq_true]
    _ ↔ ∃ raw' ∈ ops.map (·.rawClass), (named.resolve raw').1 = (named.resolve raw).1 := by
        simp only [hnames, List.mem_map, List.mem_eraseDups, named]
    _ ↔ ∃ raw' ∈ ops.map (·.rawClass), raw = raw' :=
        exists_congr fun raw' ↦ and_congr_right fun hraw' ↦ eq_comm.trans
          ((sound_ofOperations h ops).resolve_eq_iff (identifier?_ofOperations hraw'))
    _ ↔ raw ∈ ops.map (·.rawClass) := by simp

/-- The groups are named in the order in which their classes first occur. -/
theorem names_ofOperations (h : registry.Sound) (ops : List Operation) :
    (ofOperations ops registry).1.map (·.name) =
      (ops.map (·.rawClass)).eraseDups.map
        fun raw ↦ ((ofOperations ops registry).2.resolve raw).1 := by
  induction ops using List.reverseRecOn with
  | nil => rfl
  | append_singleton ops op ih =>
    let named := (ofOperations ops registry).2
    let later := (named.resolve op.rawClass).2
    have hold : (ops.map (·.rawClass)).eraseDups.map (fun raw ↦ (named.resolve raw).1) =
        (ops.map (·.rawClass)).eraseDups.map fun raw ↦ (later.resolve raw).1 := by
      refine List.map_congr_left fun raw hraw ↦ ?_
      have hkept := (Name.Registry.extends_resolve named op.rawClass).assigned
        (identifier?_ofOperations (List.mem_eraseDups.1 hraw))
      rw [Name.Registry.resolve_of_assigned hkept]
    have hlast : later.resolve op.rawClass = ((named.resolve op.rawClass).1, later) :=
      Name.Registry.Extends.resolve_eq (.refl later)
    rw [ofOperations_concat, map_name_add, List.map_append, List.map_singleton, eraseDups_concat]
    change _ = List.map (fun raw ↦ (later.resolve raw).1) _
    by_cases hraw : op.rawClass ∈ ops.map (·.rawClass)
    · rw [if_pos ((any_name_iff h ih _).2 hraw), if_pos hraw, ih]
      exact hold
    · rw [if_neg (fun hany ↦ hraw ((any_name_iff h ih _).1 hany)), if_neg hraw, List.map_append,
        List.map_singleton, hlast, ← hold, ih]

/-- The groups are the classes of the operations, in order. -/
theorem operations_ofOperations (h : registry.Sound) (ops : List Operation) :
    (ofOperations ops registry).1.map (·.operations) =
      (classesBy Operation.rawClass ops).map (·.map Prod.fst) := by
  let groups := (ofOperations ops registry).1
  let named := (ofOperations ops registry).2
  have hgrouped : Grouped ops groups named := grouped_ofOperations ops registry
  have hclass {raw : String} (hraw : raw ∈ ops.map (·.rawClass)) :
      ops.filter (·.isIn named (named.resolve raw).1) = ops.filter (·.rawClass = raw) := by
    refine List.filter_congr fun op hop ↦ ?_
    rw [Bool.eq_iff_iff, Operation.isIn_iff, decide_eq_true_iff]
    constructor
    · exact fun hname ↦
        (sound_ofOperations h ops).injective hname (identifier?_ofOperations hraw)
    · rintro rfl
      exact identifier?_ofOperations hraw
  calc groups.map (·.operations)
      = groups.map fun g ↦ ops.filter (·.isIn named g.name) :=
        List.map_congr_left hgrouped.operations
    _ = (groups.map (·.name)).map fun name ↦ ops.filter (·.isIn named name) := by
        rw [List.map_map]
        rfl
    _ = (ops.map (·.rawClass)).eraseDups.map
          fun raw ↦ ops.filter (·.isIn named (named.resolve raw).1) := by
        rw [names_ofOperations h ops, List.map_map]
        rfl
    _ = (ops.map (·.rawClass)).eraseDups.map fun raw ↦ ops.filter (·.rawClass = raw) :=
        List.map_congr_left fun raw hraw ↦ hclass (List.mem_eraseDups.1 hraw)
    _ = (classesBy Operation.rawClass ops).map (·.map Prod.fst) :=
        (map_fst_classesBy Operation.rawClass ops).symm

/-- Operations whose tags are texts are grouped by their tags: whatever was resolved and reserved in
the registry before, and however alike the tags are styled, the groups have different names and are
a stable partition of the operations, and two operations are together if and only if their tags are
equal. -/
theorem ofOperations_stable (reserved : List String) (style : String → String)
    (calls : List Name.Registry.Call) {ops : List Operation}
    (htags : ∀ op ∈ ops, ∃ tag : String, op.tag = .text tag) :
    let groups := (ofOperations ops ((Name.Registry.new reserved style).after calls)).1
    (groups.map (·.name)).Nodup ∧
      ∃ parts, groups.map (·.operations) = parts.map (·.map Prod.fst) ∧
        StablePartition ops parts fun op op' ↦ op.tag = op'.tag := by
  intro groups
  have hsound : ((Name.Registry.new reserved style).after calls).Sound :=
    (Name.Registry.sound_new reserved style).after calls
  refine ⟨(grouped_ofOperations ops _).names, classesBy Operation.rawClass ops,
    operations_ofOperations hsound ops, ?_⟩
  refine (stablePartition_classesBy Operation.rawClass ops).congr fun op hop op' hop' ↦ ?_
  obtain ⟨tag, htag⟩ := htags op hop
  obtain ⟨tag', htag'⟩ := htags op' hop'
  exact Operation.rawClass_eq_iff htag htag'

/-- An operation of which nothing but its path and its tag counts. -/
def taggedOperation (path tag : String) : Operation where
  path := path
  method := "get"
  tag := tag
  id := path
  parameters := []
  body := none
  responses := []
  tags := [tag]
  summary := ""
  description := ""
  deprecated := false

/-- Two tags of one style, where the identifiers that they are styled to are taken. -/
theorem ofOperations_stable_petStore :
    let ops := [taggedOperation "/a" "pet-store", taggedOperation "/b" "pet store",
      taggedOperation "/c" "pet-store"]
    let groups := (ofOperations ops ((Name.Registry.new Name.reserved Name.token).after
      [.resolve "PetStoreApi", .reserve "PetStoreApi_1"])).1
    (∀ op ∈ ops, ∃ tag : String, op.tag = .text tag) ∧
      groups.map (·.name) = ["PetStoreApi_2", "PetStoreApi_3"] ∧ (groups.map (·.name)).Nodup ∧
      ∃ parts, groups.map (·.operations) = parts.map (·.map Prod.fst) ∧
        StablePartition ops parts fun op op' ↦ op.tag = op'.tag := by
  intro ops groups
  have htags : ∀ op ∈ ops, ∃ tag : String, op.tag = .text tag := by
    intro op hop
    simp only [ops, List.mem_cons, List.not_mem_nil, or_false] at hop
    rcases hop with rfl | rfl | rfl <;> exact ⟨_, rfl⟩
  exact ⟨htags, by decide +kernel, ofOperations_stable Name.reserved Name.token _ htags⟩

end Group

end ApiClient

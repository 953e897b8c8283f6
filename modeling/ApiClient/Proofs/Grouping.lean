import ApiClient.Grouping
import ApiClient.Proofs.Name.Registry
import Mathlib.Data.List.Induction
import Mathlib.Data.List.Nodup

/-!
# Groups of operations

The group of an operation is told by the identifier of its class, which is that of its tag. Each
group holds the operations of its identifier in their order, and no two groups have the same one.
-/

namespace ApiClient

namespace Operation

/-- The raw name of the class that an operation is grouped in. -/
def rawClass (op : Operation) : String := op.tag.plain ++ " api"

/-- The class that an operation is grouped in has some identifier. -/
def isIn (op : Operation) (registry : Name.Registry) (name : String) : Bool :=
  registry.identifier? op.rawClass = some name

theorem isIn_iff {op : Operation} {registry : Name.Registry} {name : String} :
    op.isIn registry name = true ↔ registry.identifier? op.rawClass = some name :=
  decide_eq_true_iff

end Operation

namespace Group

/-- The operations so far are grouped: each group holds those of its identifier, and there is one
for each of them. -/
structure Grouped (ops : List Operation) (groups : List Group) (registry : Name.Registry) :
    Prop where
  names : (groups.map (·.name)).Nodup
  operations : ∀ g ∈ groups, g.operations = ops.filter (·.isIn registry g.name)
  nonempty : ∀ g ∈ groups, g.operations ≠ []
  covered : ∀ op ∈ ops, ∃ g ∈ groups, op.isIn registry g.name

theorem grouped_nil (registry : Name.Registry) : Grouped [] [] registry where
  names := List.nodup_nil
  operations _ hg := absurd hg List.not_mem_nil
  nonempty _ hg := absurd hg List.not_mem_nil
  covered _ hop := absurd hop List.not_mem_nil

theorem map_name_add (groups : List Group) (name : String) (op : Operation) :
    (add groups name op).map (·.name) =
      if groups.any (·.name = name) then groups.map (·.name) else groups.map (·.name) ++ [name] := by
  unfold add
  split
  · rw [List.map_map]
    apply List.map_congr_left
    intro g _
    simp only [Function.comp_apply]
    split <;> rfl
  · rw [List.map_append, List.map_singleton]

/-- The names after an addition are those before and the one of the addition. -/
theorem mem_names_add (groups : List Group) (name : String) (op : Operation) (other : String) :
    other ∈ (add groups name op).map (·.name) ↔ other ∈ groups.map (·.name) ∨ other = name := by
  rw [map_name_add]
  split
  · next hany =>
    obtain ⟨g, hg, hname⟩ := List.any_eq_true.1 hany
    refine ⟨.inl, fun h ↦ h.elim id ?_⟩
    rintro rfl
    exact List.mem_map.2 ⟨g, hg, of_decide_eq_true hname⟩
  · rw [List.mem_append, List.mem_singleton]

theorem nodup_names_add {groups : List Group} (h : (groups.map (·.name)).Nodup) (name : String)
    (op : Operation) : ((add groups name op).map (·.name)).Nodup := by
  rw [map_name_add]
  split
  · exact h
  · next hnone =>
    rw [List.nodup_append_comm, List.singleton_append, List.nodup_cons]
    refine ⟨fun hmem ↦ hnone ?_, h⟩
    obtain ⟨g, hg, hname⟩ := List.mem_map.1 hmem
    exact List.any_eq_true.2 ⟨g, hg, decide_eq_true hname⟩

/-- A group after an addition was there before, or it is the one that was added to. -/
theorem mem_add {groups : List Group} {name : String} {op : Operation} {g : Group}
    (h : g ∈ add groups name op) :
    (g ∈ groups ∧ g.name ≠ name) ∨ g.name = name ∧
      ((∃ g' ∈ groups, g'.name = name ∧ g.operations = g'.operations ++ [op]) ∨
      (∀ g' ∈ groups, g'.name ≠ name) ∧ g.operations = [op]) := by
  unfold add at h
  split at h
  · obtain ⟨g', hg', rfl⟩ := List.mem_map.1 h
    by_cases hname : g'.name = name
    · rw [if_pos hname]
      exact .inr ⟨hname, .inl ⟨g', hg', hname, rfl⟩⟩
    · rw [if_neg hname]
      exact .inl ⟨hg', hname⟩
  · next hnone =>
    have hothers : ∀ g' ∈ groups, g'.name ≠ name := fun g' hg' hname ↦
      hnone (List.any_eq_true.2 ⟨g', hg', decide_eq_true hname⟩)
    rcases List.mem_append.1 h with hg | hlast
    · exact .inl ⟨hg, hothers g hg⟩
    · rw [List.mem_singleton.1 hlast]
      exact .inr ⟨rfl, .inr ⟨hothers, rfl⟩⟩

variable {ops : List Operation} {groups : List Group} {registry : Name.Registry}

/-- What was grouped before stays where it is when a class is named. -/
theorem Grouped.isIn_resolve (h : Grouped ops groups registry) (raw name : String) :
    ∀ op ∈ ops, op.isIn (registry.resolve raw).2 name = op.isIn registry name := by
  intro op hop
  obtain ⟨g, -, hname⟩ := h.covered op hop
  have hassigned := Operation.isIn_iff.1 hname
  have hlater := (Name.Registry.extends_resolve registry raw).assigned hassigned
  unfold Operation.isIn
  rw [hassigned, hlater]

/-- The operations of a class once another operation is there. -/
theorem Grouped.filter_snoc (h : Grouped ops groups registry) (op : Operation) (name : String) :
    (ops ++ [op]).filter (·.isIn (registry.resolve op.rawClass).2 name) =
      ops.filter (·.isIn registry name) ++
        if (registry.resolve op.rawClass).1 = name then [op] else [] := by
  have hown : op.isIn (registry.resolve op.rawClass).2 name =
      decide ((registry.resolve op.rawClass).1 = name) := by
    rw [Bool.eq_iff_iff, Operation.isIn_iff, Name.Registry.identifier?_resolve_self,
      Option.some_inj, decide_eq_true_iff]
  rw [List.filter_append, List.filter_congr (h.isIn_resolve op.rawClass name),
    List.filter_singleton, hown]
  simp only [Bool.cond_decide]

theorem Grouped.add (h : Grouped ops groups registry) (op : Operation) :
    Grouped (ops ++ [op]) (Group.add groups (registry.resolve op.rawClass).1 op)
      (registry.resolve op.rawClass).2 where
  names := nodup_names_add h.names _ op
  operations g hg := by
    rw [h.filter_snoc]
    rcases mem_add hg with ⟨hold, hother⟩ | ⟨hname, ⟨g', hg', hsame, hops⟩ | ⟨hnone, hops⟩⟩
    · rw [if_neg (Ne.symm hother), List.append_nil, h.operations g hold]
    · rw [if_pos hname.symm, hops, h.operations g' hg', hsame, hname]
    · rw [if_pos hname.symm, hops, List.filter_eq_nil_iff.2, List.nil_append]
      intro op' hop' hin
      obtain ⟨g', hg', hin'⟩ := h.covered op' hop'
      have hnames := (Operation.isIn_iff.1 hin).symm.trans (Operation.isIn_iff.1 hin')
      exact hnone g' hg' ((Option.some.inj hnames).symm.trans hname)
  nonempty g hg := by
    rcases mem_add hg with ⟨hold, -⟩ | ⟨-, ⟨g', -, -, hops⟩ | ⟨-, hops⟩⟩
    · exact h.nonempty g hold
    · rw [hops]
      exact List.append_ne_nil_of_right_ne_nil _ (List.cons_ne_nil _ _)
    · rw [hops]
      exact List.cons_ne_nil _ _
  covered op' hop' := by
    have hcovered : ∃ name, op'.isIn (registry.resolve op.rawClass).2 name ∧
        name ∈ (Group.add groups (registry.resolve op.rawClass).1 op).map (·.name) := by
      rcases List.mem_append.1 hop' with hold | hlast
      · obtain ⟨g, hg, hin⟩ := h.covered op' hold
        refine ⟨g.name, ?_, (mem_names_add _ _ _ _).2 (.inl (List.mem_map_of_mem hg))⟩
        rwa [h.isIn_resolve _ _ op' hold]
      · rw [List.mem_singleton.1 hlast]
        exact ⟨_, Operation.isIn_iff.2 (Name.Registry.identifier?_resolve_self _ _),
          (mem_names_add _ _ _ _).2 (.inr rfl)⟩
    obtain ⟨name, hin, hname⟩ := hcovered
    obtain ⟨g, hg, rfl⟩ := List.mem_map.1 hname
    exact ⟨g, hg, hin⟩

/-- Grouping one more operation names its class and adds it there. -/
theorem ofOperations_concat (ops : List Operation) (op : Operation) (registry : Name.Registry) :
    ofOperations (ops ++ [op]) registry =
      (Group.add (ofOperations ops registry).1
          ((ofOperations ops registry).2.resolve op.rawClass).1 op,
        ((ofOperations ops registry).2.resolve op.rawClass).2) := by
  unfold ofOperations
  rw [List.foldl_append]
  rfl

/-- Operations are grouped by the identifiers of their classes. -/
theorem grouped_ofOperations (ops : List Operation) (registry : Name.Registry) :
    Grouped ops (ofOperations ops registry).1 (ofOperations ops registry).2 := by
  induction ops using List.reverseRecOn with
  | nil => exact grouped_nil registry
  | append_singleton ops op ih =>
    rw [ofOperations_concat]
    exact ih.add op

/-- Operations of one class form one group. -/
theorem ofOperations_of_class {ops : List Operation} {raw : String} {registry : Name.Registry}
    (hops : ∀ op ∈ ops, op.rawClass = raw) (hne : ops ≠ []) :
    (ofOperations ops registry).1 = [⟨(registry.resolve raw).1, ops⟩] := by
  have hboth : (ofOperations ops registry).1 = [⟨(registry.resolve raw).1, ops⟩] ∧
      (ofOperations ops registry).2.identifier? raw = some (registry.resolve raw).1 := by
    induction ops using List.reverseRecOn with
    | nil => exact absurd rfl hne
    | append_singleton ops op ih =>
      obtain ⟨hfirst, hlast⟩ := List.forall_mem_append.1 hops
      rw [ofOperations_concat, hlast op (List.mem_singleton_self op)]
      rcases eq_or_ne ops [] with rfl | hsome
      · exact ⟨rfl, Name.Registry.identifier?_resolve_self registry raw⟩
      · obtain ⟨hgroups, hname⟩ := ih hfirst hsome
        rw [Name.Registry.resolve_of_assigned hname, hgroups]
        exact ⟨by simp [add], hname⟩
  exact hboth.1

end Group

end ApiClient

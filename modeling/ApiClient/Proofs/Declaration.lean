import ApiClient.Declaration
import Mathlib.Data.List.Nodup

/-!
# Declarations by name

Declarations are a map from names that keeps the order of first appearance. Placing every
declaration after its bases loses none and adds none: each step keeps what is placed, and whatever
name it adds to those met is placed when it ends. So a name has the same declaration in either
order.
-/

namespace ApiClient.Declarations

/-! ## Looking up and putting -/

theorem name_of_find? {ds : Declarations} {name : String} {d : Declaration}
    (h : ds.find? name = some d) : d.name = name := by
  have hname := List.find?_some h
  exact of_decide_eq_true hname

theorem contains_eq (ds : Declarations) (name : String) :
    ds.contains name = (ds.find? name).isSome := by
  rw [Bool.eq_iff_iff, find?, List.find?_isSome, contains, List.any_eq_true]

theorem find?_eq_none_of_contains {ds : Declarations} {name : String}
    (h : ds.contains name = false) : ds.find? name = none := by
  rwa [contains_eq, Option.isSome_eq_false_iff, Option.isNone_iff_eq_none] at h

/-- Where no name is declared twice, a name has the declaration of that name. -/
theorem find?_eq_some_iff {ds : Declarations} (hnodup : (List.map (·.name) ds).Nodup)
    {name : String} {d : Declaration} : ds.find? name = some d ↔ d ∈ ds ∧ d.name = name := by
  refine ⟨fun h ↦ ⟨mem_of_find? h, name_of_find? h⟩, ?_⟩
  rintro ⟨hd, rfl⟩
  have hsome : (ds.find? d.name).isSome := by
    rw [find?, List.find?_isSome]
    exact ⟨d, hd, decide_eq_true rfl⟩
  obtain ⟨e, he⟩ := Option.isSome_iff_exists.1 hsome
  rw [he, List.inj_on_of_nodup_map hnodup (mem_of_find? he) hd (name_of_find? he)]

/-- After a declaration is put, its name has it, and the other names keep theirs. -/
theorem find?_put (ds : Declarations) (d : Declaration) (name : String) :
    (ds.put d).find? name = if d.name = name then some d else ds.find? name := by
  unfold put
  split
  · next hcontains =>
    have hname : ((fun c : Declaration ↦ decide (c.name = name)) ∘
        fun c ↦ if c.name = d.name then d else c) = fun c ↦ decide (c.name = name) := by
      funext c
      simp only [Function.comp_apply]
      split
      · next hsame => rw [hsame]
      · rfl
    rw [find?, List.find?_map, hname]
    cases hfound : List.find? (fun c ↦ decide (c.name = name)) ds with
    | none =>
      have hother : d.name ≠ name := by
        rintro rfl
        rw [contains_eq, find?, hfound] at hcontains
        cases hcontains
      rw [if_neg hother, find?, hfound, Option.map_none]
    | some c =>
      have hc : c.name = name := name_of_find? hfound
      rw [find?, hfound, Option.map_some, hc]
      simp only [eq_comm (a := name)]
      split <;> rfl
  · next hfresh =>
    rw [Bool.not_eq_true] at hfresh
    have hnone := find?_eq_none_of_contains hfresh
    rw [find?, List.find?_append]
    split
    · next hname =>
      subst hname
      rw [find?] at hnone
      rw [hnone]
      simp
    · next hname =>
      have hmiss : List.find? (fun c : Declaration ↦ c.name = name) [d] = none := by simp [hname]
      rw [hmiss, Option.or_none, find?]

/-- What is there once a declaration was added was there before, or it is the one that was added. -/
theorem mem_put {ds : Declarations} {d x : Declaration} (h : x ∈ ds.put d) : x = d ∨ x ∈ ds := by
  unfold put at h
  split at h
  · obtain ⟨c, hc, rfl⟩ := List.mem_map.1 h
    split
    · exact .inl rfl
    · exact .inr hc
  · rcases List.mem_append.1 h with h | h
    · exact .inr h
    · exact .inl (List.mem_singleton.1 h)

theorem map_name_put (ds : Declarations) (d : Declaration) :
    List.map (·.name) (ds.put d) =
      if ds.contains d.name then List.map (·.name) ds else List.map (·.name) ds ++ [d.name] := by
  unfold put
  split
  · rw [List.map_map]
    apply List.map_congr_left
    intro c _
    simp only [Function.comp_apply]
    split
    · next hsame => exact hsame.symm
    · rfl
  · rw [List.map_append, List.map_singleton]

theorem nodup_name_put {ds : Declarations} (h : (List.map (·.name) ds).Nodup) (d : Declaration) :
    (List.map (·.name) (ds.put d)).Nodup := by
  rw [map_name_put]
  split
  · exact h
  · next hfresh =>
    rw [List.nodup_append_comm, List.singleton_append, List.nodup_cons]
    refine ⟨fun hmem ↦ hfresh ?_, h⟩
    obtain ⟨c, hc, hname⟩ := List.mem_map.1 hmem
    exact List.any_eq_true.2 ⟨c, hc, decide_eq_true hname⟩

/-! ## Placing -/

/-- One placement and a later one: what is placed stays placed and all of it is declared, and the
names met on the way are placed. -/
structure Places (ds : Declarations) (p q : Placement) : Prop where
  placed : p.placed ⊆ q.placed
  names : p.names ⊆ q.names
  declared : ∀ d ∈ q.placed, d ∈ p.placed ∨ d ∈ ds
  met : ∀ name ∈ q.names, name ∈ p.names ∨ ∃ d ∈ q.placed, d.name = name

theorem Places.refl (ds : Declarations) (p : Placement) : Places ds p p where
  placed := List.Subset.refl _
  names := List.Subset.refl _
  declared _ hd := .inl hd
  met _ hname := .inl hname

theorem Places.trans {ds : Declarations} {p q r : Placement} (h : Places ds p q)
    (h' : Places ds q r) : Places ds p r where
  placed := List.Subset.trans h.placed h'.placed
  names := List.Subset.trans h.names h'.names
  declared d hd := by
    rcases h'.declared d hd with hq | hds
    · exact h.declared d hq
    · exact .inr hds
  met name hname := by
    rcases h'.met name hname with hq | hplaced
    · rcases h.met name hq with hp | ⟨d, hd, hdname⟩
      · exact .inl hp
      · exact .inr ⟨d, h'.placed hd, hdname⟩
    · exact .inr hplaced

/-- A declaration is placed after its bases. -/
theorem Places.add {ds : Declarations} {d : Declaration} (hd : d ∈ ds) {p q : Placement}
    (h : Places ds { p with names := d.name :: p.names } q) :
    Places ds p { q with placed := q.placed ++ [d] } where
  placed := fun c hc ↦ List.mem_append_left _ (h.placed hc)
  names := fun name hname ↦ h.names (List.mem_cons_of_mem _ hname)
  declared c hc := by
    rcases List.mem_append.1 hc with hq | hlast
    · exact h.declared c hq
    · rw [List.mem_singleton.1 hlast]
      exact .inr hd
  met name hname := by
    rcases h.met name hname with hp | ⟨c, hc, hcname⟩
    · rcases List.mem_cons.1 hp with rfl | hp
      · exact .inr ⟨d, List.mem_append_right _ (List.mem_singleton_self d), rfl⟩
      · exact .inl hp
    · exact .inr ⟨c, List.mem_append_left _ hc, hcname⟩

theorem lex_of_le {a b m n : Nat} (h : a ≤ b) (h' : m < n) :
    Prod.Lex (· < ·) (· < ·) (a, m) (b, n) := by
  rcases Nat.lt_or_eq_of_le h with hlt | rfl
  · exact Prod.Lex.left _ _ hlt
  · exact Prod.Lex.right _ h'

mutual

theorem places_place (ds : Declarations) (d : Declaration) (hd : d ∈ ds) (p : Placement) :
    Places ds p (place ds d hd p).1 ∧ d.name ∈ (place ds d hd p).1.names := by
  rw [place]
  split
  · next hmem => exact ⟨.refl ds p, hmem⟩
  · next hfresh =>
    have hless := unplaced_cons_lt hd hfresh
    have hbases := places_placeBases ds d.bases { p with names := d.name :: p.names }
    exact ⟨hbases.add hd, hbases.names List.mem_cons_self⟩
termination_by (ds.unplaced p.names, 0)
decreasing_by exact Prod.Lex.left _ _ (by assumption)

theorem places_placeBases (ds : Declarations) (bases : List String) (p : Placement) :
    Places ds p (placeBases ds bases p).1 := by
  match bases with
  | [] =>
    rw [placeBases]
    exact .refl ds p
  | base :: bases =>
    rw [placeBases]
    split
    · exact places_placeBases ds bases p
    · next d hfound =>
      have hless := (place ds d (mem_of_find? hfound) p).2
      have hplace := (places_place ds d (mem_of_find? hfound) p).1
      have hrest := places_placeBases ds bases (place ds d (mem_of_find? hfound) p).1
      exact hplace.trans hrest
termination_by (ds.unplaced p.names, bases.length + 1)
decreasing_by
  · exact Prod.Lex.right _ (by simp)
  · exact Prod.Lex.right _ (by simp)
  · exact lex_of_le (by assumption) (by simp)

end

theorem places_placeAll (ds : Declarations) (part : List Declaration) (hpart : ∀ d ∈ part, d ∈ ds)
    (p : Placement) :
    Places ds p (placeAll ds part hpart p) ∧
      ∀ d ∈ part, d.name ∈ (placeAll ds part hpart p).names := by
  induction part generalizing p with
  | nil => exact ⟨.refl ds p, fun d hd ↦ absurd hd List.not_mem_nil⟩
  | cons d part ih =>
    obtain ⟨hplace, hname⟩ := places_place ds d (hpart d List.mem_cons_self) p
    obtain ⟨hrest, hnames⟩ := ih (fun e he ↦ hpart e (List.mem_cons_of_mem _ he)) _
    refine ⟨hplace.trans hrest, List.forall_mem_cons.2 ⟨?_, hnames⟩⟩
    exact hrest.names hname

theorem mem_of_mem_ordered {ds : Declarations} {d : Declaration} (h : d ∈ ds.ordered) : d ∈ ds := by
  have hplaces := (places_placeAll ds ds (fun _ hd ↦ hd) ⟨[], []⟩).1
  rcases hplaces.declared d h with hempty | hds
  · cases hempty
  · exact hds

theorem exists_mem_ordered {ds : Declarations} {d : Declaration} (h : d ∈ ds) :
    ∃ e ∈ ds.ordered, e.name = d.name := by
  obtain ⟨hplaces, hnames⟩ := places_placeAll ds ds (fun _ hd ↦ hd) ⟨[], []⟩
  rcases hplaces.met d.name (hnames d h) with hempty | hplaced
  · cases hempty
  · exact hplaced

/-- Where no name is declared twice, placing bases first changes no declaration. -/
theorem find?_ordered {ds : Declarations} (hnodup : (List.map (·.name) ds).Nodup) (name : String) :
    find? ds.ordered name = ds.find? name := by
  cases hfound : ds.find? name with
  | none =>
    rw [find?, List.find?_eq_none] at hfound ⊢
    intro d hd
    exact hfound d (mem_of_mem_ordered hd)
  | some d =>
    have hname := name_of_find? hfound
    obtain ⟨e, he, hename⟩ := exists_mem_ordered (mem_of_find? hfound)
    have hsome : (find? ds.ordered name).isSome := by
      rw [find?, List.find?_isSome]
      exact ⟨e, he, decide_eq_true (hename.trans hname)⟩
    obtain ⟨c, hc⟩ := Option.isSome_iff_exists.1 hsome
    have hsame : c.name = d.name := (name_of_find? hc).trans hname.symm
    rw [hc, List.inj_on_of_nodup_map hnodup (mem_of_mem_ordered (mem_of_find? hc))
      (mem_of_find? hfound) hsame]

end ApiClient.Declarations

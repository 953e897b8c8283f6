import ApiClient.Proofs.Declaration
import Mathlib.Logic.Relation

/-!
# Order of declarations

A class is written after its bases. The search for an order meets a name before it goes on to the
bases of its declaration, and places it afterwards; a name that is met and not placed is awaited,
and each awaited name inherits from the one that is visited. So a base is placed when its turn is
over unless it is awaited itself, and then it inherits from itself. Whatever the bases are, every
declaration is placed once; the bases come first just if no name inherits from itself. Declarations
that are added after all bases stay where they are.
-/

namespace ApiClient.Declarations

/-- A declared name has a base. -/
def Inherits (ds : Declarations) (name base : String) : Prop :=
  ∃ d ∈ ds, d.name = name ∧ base ∈ d.bases

/-- No name inherits from itself, be it along others. -/
def Acyclic (ds : Declarations) : Prop := ∀ name, ¬ Relation.TransGen ds.Inherits name name

/-- Every base is declared. -/
def BasesDeclared (ds : Declarations) : Prop :=
  ∀ d ∈ ds, ∀ base ∈ d.bases, ds.contains base = true

/-- The bases of each declaration stand before it. -/
def BasesFirst (ds : List Declaration) : Prop :=
  ∀ before d after, ds = before ++ d :: after → ∀ base ∈ d.bases, ∃ e ∈ before, e.name = base

theorem basesFirst_nil : BasesFirst [] := by
  intro before d after h
  cases before <;> cases h

/-- A declaration may be added at the end once its bases are there. -/
theorem BasesFirst.snoc {ds : List Declaration} (h : BasesFirst ds) {d : Declaration}
    (hbases : ∀ base ∈ d.bases, ∃ e ∈ ds, e.name = base) : BasesFirst (ds ++ [d]) := by
  intro before c after hsplit
  rcases List.eq_nil_or_concat after with rfl | ⟨after, last, rfl⟩
  · obtain ⟨rfl, hlast⟩ := List.append_inj' hsplit rfl
    obtain rfl : d = c := List.singleton_inj.1 hlast
    exact hbases
  · rw [List.concat_eq_append, ← List.cons_append, ← List.append_assoc] at hsplit
    exact h before c after (List.append_inj' hsplit rfl).1

/-! ## The search -/

/-- A name is awaited while the bases of its declaration are placed. -/
def Placement.Awaits (p : Placement) (name : String) : Prop :=
  name ∈ p.names ∧ ∀ d ∈ p.placed, d.name ≠ name

/-- What is placed is met, each name once, and after its bases if all of these are declared and no
name inherits from itself. -/
structure Orderly (ds : Declarations) (p : Placement) : Prop where
  met : ∀ d ∈ p.placed, d.name ∈ p.names
  once : (p.placed.map (·.name)).Nodup
  basesFirst : ds.BasesDeclared → ds.Acyclic → BasesFirst p.placed

/-- A placement is followed by an orderly one, and only names that were not met are placed. -/
structure Orders (ds : Declarations) (p q : Placement) : Prop where
  orderly : Orderly ds q
  fresh : ∀ d ∈ q.placed, d ∈ p.placed ∨ d.name ∉ p.names

theorem Orders.refl {ds : Declarations} {p : Placement} (h : Orderly ds p) : Orders ds p p where
  orderly := h
  fresh _ hd := .inl hd

theorem Orders.trans {ds : Declarations} {p q r : Placement} (h : Orders ds p q)
    (hnames : p.names ⊆ q.names) (h' : Orders ds q r) : Orders ds p r where
  orderly := h'.orderly
  fresh d hd := by
    rcases h'.fresh d hd with hq | hnew
    · exact h.fresh d hq
    · exact .inr fun hmet ↦ hnew (hnames hmet)

/-- What is awaited later was awaited before. -/
theorem Places.awaits {ds : Declarations} {p q : Placement} (h : Places ds p q) {name : String}
    (hname : q.Awaits name) : p.Awaits name := by
  refine ⟨?_, fun d hd ↦ hname.2 d (h.placed hd)⟩
  rcases h.met name hname.1 with hmet | ⟨d, hd, hplaced⟩
  · exact hmet
  · exact absurd hplaced (hname.2 d hd)

/-- The names that are awaited once a declaration is visited: those before, and its own. -/
theorem Placement.awaits_cons {p : Placement} {name other : String}
    (h : Placement.Awaits { p with names := name :: p.names } other) :
    other = name ∨ p.Awaits other := by
  rcases List.mem_cons.1 h.1 with hsame | hmet
  · exact .inl hsame
  · exact .inr ⟨hmet, h.2⟩

/-- A declaration is placed after its bases. -/
theorem Orders.add {ds : Declarations} {d : Declaration} (hd : d ∈ ds)
    {p q : Placement} (hfresh : d.name ∉ p.names)
    (hawaits : ∀ name, p.Awaits name → Relation.TransGen ds.Inherits name d.name)
    (hplaces : Places ds { p with names := d.name :: p.names } q)
    (hbases : ∀ base ∈ d.bases, ds.contains base = true → base ∈ q.names)
    (h : Orders ds { p with names := d.name :: p.names } q) (hp : Orderly ds p) :
    Orders ds p { q with placed := q.placed ++ [d] } where
  orderly := by
    have hnew : ∀ e ∈ q.placed, e.name ≠ d.name := by
      intro e he hsame
      rcases h.fresh e he with hold | hunmet
      · exact hfresh (hsame ▸ hp.met e hold)
      · exact hunmet (hsame ▸ List.mem_cons_self)
    refine ⟨?_, ?_, fun hdeclared hacyclic ↦
      (h.orderly.basesFirst hdeclared hacyclic).snoc ?_⟩
    · intro e he
      rcases List.mem_append.1 he with hq | hlast
      · exact h.orderly.met e hq
      · rw [List.mem_singleton.1 hlast]
        exact hplaces.names List.mem_cons_self
    · rw [List.map_append, List.map_singleton, List.nodup_append_comm, List.singleton_append,
        List.nodup_cons]
      refine ⟨fun hmem ↦ ?_, h.orderly.once⟩
      obtain ⟨e, he, hsame⟩ := List.mem_map.1 hmem
      exact hnew e he hsame
    · intro base hbase
      by_contra! hmissing
      have hmet := hbases base hbase (hdeclared d hd base hbase)
      -- A base that is met and not placed is awaited, so it inherits from `d` or is its name.
      have hstep : ds.Inherits d.name base := ⟨d, hd, rfl, hbase⟩
      rcases Placement.awaits_cons (hplaces.awaits ⟨hmet, hmissing⟩) with hself | hearlier
      · rw [hself] at hstep
        exact hacyclic d.name (.single hstep)
      · exact hacyclic base ((hawaits base hearlier).tail hstep)
  fresh e he := by
    rcases List.mem_append.1 he with hq | hlast
    · rcases h.fresh e hq with hold | hunmet
      · exact .inl hold
      · exact .inr fun hmet ↦ hunmet (List.mem_cons_of_mem _ hmet)
    · rw [List.mem_singleton.1 hlast]
      exact .inr hfresh

mutual

/-- A visit is orderly when each awaited name inherits from the visited one. -/
theorem orders_place {ds : Declarations} (d : Declaration) (hd : d ∈ ds) (p : Placement)
    (hp : Orderly ds p)
    (hawaits : ∀ name, p.Awaits name → Relation.TransGen ds.Inherits name d.name) :
    Orders ds p (place ds d hd p).1 := by
  rw [place]
  split
  · exact .refl hp
  · next hfresh =>
    have hless := unplaced_cons_lt hd hfresh
    have hvisited : Orderly ds { p with names := d.name :: p.names } :=
      ⟨fun e he ↦ List.mem_cons_of_mem _ (hp.met e he), hp.once, hp.basesFirst⟩
    have hbelow : ∀ name, Placement.Awaits { p with names := d.name :: p.names } name →
        ∀ base ∈ d.bases, Relation.TransGen ds.Inherits name base := by
      intro name hname base hbase
      have hstep : ds.Inherits d.name base := ⟨d, hd, rfl, hbase⟩
      rcases Placement.awaits_cons hname with rfl | hearlier
      · exact .single hstep
      · exact (hawaits name hearlier).tail hstep
    obtain ⟨horders, hbases⟩ := orders_placeBases d.bases _ hvisited hbelow
    exact horders.add hd hfresh hawaits (places_placeBases ds d.bases _) hbases hp
termination_by (ds.unplaced p.names, 0)
decreasing_by exact Prod.Lex.left _ _ (by assumption)

theorem orders_placeBases {ds : Declarations} (bases : List String) (p : Placement)
    (hp : Orderly ds p)
    (hawaits : ∀ name, p.Awaits name → ∀ base ∈ bases, Relation.TransGen ds.Inherits name base) :
    Orders ds p (placeBases ds bases p).1 ∧
      ∀ base ∈ bases, ds.contains base = true → base ∈ (placeBases ds bases p).1.names := by
  match bases with
  | [] =>
    rw [placeBases]
    exact ⟨.refl hp, fun base hbase ↦ absurd hbase List.not_mem_nil⟩
  | base :: bases =>
    rw [placeBases]
    split
    · next hnone =>
      obtain ⟨horders, hnames⟩ := orders_placeBases bases p hp
        fun name hname other hother ↦ hawaits name hname other (List.mem_cons_of_mem _ hother)
      refine ⟨horders, List.forall_mem_cons.2 ⟨fun hcontains ↦ ?_, hnames⟩⟩
      rw [contains_eq, hnone] at hcontains
      cases hcontains
    · next d hfound =>
      have hless := (place ds d (mem_of_find? hfound) p).2
      obtain ⟨hplaces, hname⟩ := places_place ds d (mem_of_find? hfound) p
      obtain rfl : d.name = base := name_of_find? hfound
      have hfirst := orders_place d (mem_of_find? hfound) p hp
        fun name hname ↦ hawaits name hname d.name List.mem_cons_self
      obtain ⟨hrest, hnames⟩ := orders_placeBases bases _ hfirst.orderly
        fun name hname other hother ↦
          hawaits name (hplaces.awaits hname) other (List.mem_cons_of_mem _ hother)
      refine ⟨hfirst.trans hplaces.names hrest, List.forall_mem_cons.2 ⟨fun _ ↦ ?_, hnames⟩⟩
      exact (places_placeBases ds bases _).names hname
termination_by (ds.unplaced p.names, bases.length + 1)
decreasing_by
  · exact Prod.Lex.right _ (by simp)
  · exact Prod.Lex.right _ (by simp)
  · exact lex_of_le (by assumption) (by simp)

end

theorem orderly_placeAll {ds : Declarations} (part : List Declaration)
    (hpart : ∀ d ∈ part, d ∈ ds) (p : Placement) (hp : Orderly ds p)
    (hawaits : ∀ name, ¬ p.Awaits name) : Orderly ds (placeAll ds part hpart p) := by
  induction part generalizing p with
  | nil => exact hp
  | cons d part ih =>
    have hplaces := (places_place ds d (hpart d List.mem_cons_self) p).1
    have hfirst := orders_place d (hpart d List.mem_cons_self) p hp
      fun name hname ↦ absurd hname (hawaits name)
    exact ih _ _ hfirst.orderly fun name hname ↦ hawaits name (hplaces.awaits hname)

theorem orderly_ordered (ds : Declarations) :
    (ds.ordered.map (·.name)).Nodup ∧
      (ds.BasesDeclared → ds.Acyclic → BasesFirst ds.ordered) := by
  have hempty : Orderly ds ⟨[], []⟩ :=
    ⟨fun d hd ↦ absurd hd List.not_mem_nil, List.nodup_nil, fun _ _ ↦ basesFirst_nil⟩
  have hend := orderly_placeAll ds (fun _ hd ↦ hd) ⟨[], []⟩ hempty
    fun name hname ↦ absurd hname.1 List.not_mem_nil
  exact ⟨hend.once, hend.basesFirst⟩

/-! ## The order -/

/-- Every declaration is listed once. -/
theorem ordered_perm {ds : Declarations} (hnodup : (List.map (·.name) ds).Nodup) :
    ds.ordered.Perm ds := by
  refine (List.perm_ext_iff_of_nodup (orderly_ordered ds).1.of_map hnodup.of_map).2 ?_
  intro d
  refine ⟨mem_of_mem_ordered, fun hd ↦ ?_⟩
  obtain ⟨e, he, hname⟩ := exists_mem_ordered hd
  rwa [← List.inj_on_of_nodup_map hnodup (mem_of_mem_ordered he) hd hname]

/-- Where the bases come first, what a name inherits from stands before it. -/
theorem BasesFirst.exists_before {ds : List Declaration} (h : BasesFirst ds)
    (hnodup : (ds.map (·.name)).Nodup) {name base : String}
    (hinherits : Relation.TransGen (Inherits ds) name base) :
    ∃ before d after, ds = before ++ d :: after ∧ d.name = name ∧ ∃ e ∈ before, e.name = base := by
  induction hinherits with
  | single hstep =>
    obtain ⟨d, hd, hname, hbase⟩ := hstep
    obtain ⟨before, after, rfl⟩ := List.append_of_mem hd
    exact ⟨before, d, after, rfl, hname, h before d after rfl _ hbase⟩
  | tail _ hstep ih =>
    obtain ⟨before, d, after, rfl, hname, e, he, rfl⟩ := ih
    obtain ⟨e', he', hsame, hbase⟩ := hstep
    obtain rfl : e' = e :=
      List.inj_on_of_nodup_map hnodup he' (List.mem_append_left _ he) hsame
    obtain ⟨first, middle, rfl⟩ := List.append_of_mem he
    have hfirst := h first e' (middle ++ d :: after) (by simp) _ hbase
    obtain ⟨c, hc, hcname⟩ := hfirst
    exact ⟨_, d, after, rfl, hname, c, List.mem_append_left _ hc, hcname⟩

/-- The bases come first just if no name inherits from itself. -/
theorem basesFirst_ordered_iff {ds : Declarations} (hnodup : (List.map (·.name) ds).Nodup)
    (hdeclared : ds.BasesDeclared) : BasesFirst ds.ordered ↔ ds.Acyclic := by
  obtain ⟨honce, hfirst⟩ := orderly_ordered ds
  refine ⟨fun h name hcycle ↦ ?_, hfirst hdeclared⟩
  have hmem : ∀ d, d ∈ ds.ordered ↔ d ∈ ds := fun d ↦ (ordered_perm hnodup).mem_iff
  have hinherits : ds.Inherits ≤ Inherits ds.ordered := by
    rintro name base ⟨d, hd, hrest⟩
    exact ⟨d, (hmem d).2 hd, hrest⟩
  have hcycle := Relation.TransGen.mono hinherits _ _ hcycle
  obtain ⟨before, d, after, hsplit, hname, e, he, hsame⟩ := h.exists_before honce hcycle
  rw [hsplit, List.map_append, List.map_cons] at honce
  have hdisjoint := (List.nodup_append.1 honce).2.2 e.name (List.mem_map_of_mem he) d.name
    List.mem_cons_self
  exact hdisjoint (hsame.trans hname.symm)

/-! ## Declarations that are added -/

/-- Where the names go on from those before and every name keeps its declaration, declarations are
added at the end. -/
theorem exists_append_of_kept {core ds : Declarations}
    (hnames : List.map (·.name) core <+: List.map (·.name) ds)
    (hnodup : (List.map (·.name) ds).Nodup)
    (hkept : ∀ {name x}, core.find? name = some x → ds.find? name = some x) :
    ∃ more, ds = core ++ more := by
  have hcore : (List.map (·.name) core).Nodup := hnames.sublist.nodup hnodup
  have hmem : ∀ x ∈ core, x ∈ ds := fun x hx ↦
    mem_of_find? (hkept ((find?_eq_some_iff hcore).2 ⟨hx, rfl⟩))
  have htake : List.map (·.name) core = List.map (·.name) (ds.take core.length) := by
    rw [List.map_take]
    exact (List.prefix_iff_eq_take.1 hnames).trans (by rw [List.length_map])
  have hsame : core = ds.take core.length := by
    refine List.ext_getElem (by simpa using congrArg List.length htake) fun i hi hi' ↦ ?_
    have hname : core[i].name = (ds.take core.length)[i].name := by
      have hget := List.getElem_of_eq htake (by rwa [List.length_map])
      rwa [List.getElem_map, List.getElem_map] at hget
    exact List.inj_on_of_nodup_map hnodup (hmem _ (List.getElem_mem hi))
      (List.mem_of_mem_take (List.getElem_mem hi')) hname
  have happend := congrArg (· ++ ds.drop core.length) hsame
  exact ⟨ds.drop core.length, (List.take_append_drop core.length ds).symm.trans happend.symm⟩

/-- Each base of some declarations is the name of a core declaration. -/
def Rooted (core ds : Declarations) : Prop :=
  ∀ d ∈ ds, ∀ base ∈ d.bases, ∃ e ∈ core, e.name = base

theorem find?_append_of_mem {core : Declarations} (more : Declarations) {name : String}
    (h : ∃ e ∈ core, e.name = name) :
    ∃ d, core.find? name = some d ∧ find? (core ++ more) name = some d := by
  have hsome : (core.find? name).isSome := by
    rw [find?, List.find?_isSome]
    exact h.imp fun e he ↦ ⟨he.1, decide_eq_true he.2⟩
  obtain ⟨d, hd⟩ := Option.isSome_iff_exists.1 hsome
  refine ⟨d, hd, ?_⟩
  unfold find? at hd ⊢
  rw [List.find?_append, hd, Option.some_or]

mutual

/-- What is added at the end does not change how a declaration before it is placed. -/
theorem place_append {core more : Declarations} (hcore : Rooted core core) (d : Declaration)
    (hd : d ∈ core) (hd' : d ∈ core ++ more) (p : Placement) :
    (place (core ++ more) d hd' p).1 = (place core d hd p).1 := by
  rw [place, place]
  split
  · rfl
  · next hfresh =>
    have hless := unplaced_cons_lt hd hfresh
    have hbases := placeBases_append more hcore d.bases (hcore d hd)
      { p with names := d.name :: p.names }
    exact congrArg (fun q : Placement ↦ { q with placed := q.placed ++ [d] }) hbases
termination_by (core.unplaced p.names, 0)
decreasing_by exact Prod.Lex.left _ _ (by assumption)

theorem placeBases_append {core : Declarations} (more : Declarations) (hcore : Rooted core core)
    (bases : List String) (hbases : ∀ base ∈ bases, ∃ e ∈ core, e.name = base) (p : Placement) :
    (placeBases (core ++ more) bases p).1 = (placeBases core bases p).1 := by
  match bases with
  | [] => rw [placeBases, placeBases]
  | base :: bases =>
    obtain ⟨hbase, hrest⟩ := List.forall_mem_cons.1 hbases
    obtain ⟨d, hfound, hfound'⟩ := find?_append_of_mem more hbase
    rw [placeBases, placeBases]
    split
    · next hnone => simp [hfound'] at hnone
    next d₁ h₁ =>
    obtain rfl : d = d₁ := Option.some.inj (hfound'.symm.trans h₁)
    split
    · next hnone => simp [hfound] at hnone
    next d₂ h₂ =>
    obtain rfl : d = d₂ := Option.some.inj (hfound.symm.trans h₂)
    have hless := (place core d (mem_of_find? h₂) p).2
    have hplace := place_append hcore d (mem_of_find? h₂) (mem_of_find? h₁) p
    exact (congrArg (fun q ↦ (placeBases (core ++ more) bases q).1) hplace).trans
      (placeBases_append more hcore bases hrest _)
termination_by (core.unplaced p.names, bases.length + 1)
decreasing_by
  · exact Prod.Lex.right _ (by simp)
  · exact lex_of_le (by assumption) (by simp)

end

theorem placeAll_append (ds : Declarations) (part part' : List Declaration)
    (hpart : ∀ d ∈ part ++ part', d ∈ ds) (p : Placement) :
    placeAll ds (part ++ part') hpart p =
      placeAll ds part' (fun d hd ↦ hpart d (List.mem_append_right _ hd))
        (placeAll ds part (fun d hd ↦ hpart d (List.mem_append_left _ hd)) p) := by
  induction part generalizing p with
  | nil => rfl
  | cons d part ih => exact ih _ _

theorem placeAll_of_append {core more : Declarations} (hcore : Rooted core core)
    (part : List Declaration) (hpart : ∀ d ∈ part, d ∈ core) (p : Placement) :
    placeAll (core ++ more) part (fun d hd ↦ List.mem_append_left _ (hpart d hd)) p =
      placeAll core part hpart p := by
  induction part generalizing p with
  | nil => rfl
  | cons d part ih =>
    have hd : d ∈ core ++ more := List.mem_append_left _ (hpart d List.mem_cons_self)
    have hfirst := place_append hcore d (hpart d List.mem_cons_self) hd p
    rw [placeAll, placeAll, hfirst]
    exact ih _ _

theorem placeBases_of_met {ds : Declarations} {bases : List String} {p : Placement}
    (h : ∀ base ∈ bases, base ∈ p.names) : (placeBases ds bases p).1 = p := by
  induction bases with
  | nil => rw [placeBases]
  | cons base bases ih =>
    obtain ⟨hbase, hrest⟩ := List.forall_mem_cons.1 h
    rw [placeBases]
    split
    · exact ih hrest
    · next d hfound =>
      have hplace : (place ds d (mem_of_find? hfound) p).1 = p := by
        rw [place, dif_pos (name_of_find? hfound ▸ hbase)]
      exact (congrArg (fun q ↦ (placeBases ds bases q).1) hplace).trans (ih hrest)

/-- A declaration whose bases are met is placed at once. -/
theorem place_of_met {ds : Declarations} {d : Declaration} (hd : d ∈ ds) {p : Placement}
    (hfresh : d.name ∉ p.names) (hbases : ∀ base ∈ d.bases, base ∈ p.names) :
    (place ds d hd p).1 = ⟨d.name :: p.names, p.placed ++ [d]⟩ := by
  have hmet : (placeBases ds d.bases { p with names := d.name :: p.names }).1 =
      { p with names := d.name :: p.names } :=
    placeBases_of_met fun base hbase ↦ List.mem_cons_of_mem _ (hbases base hbase)
  rw [place, dif_neg hfresh]
  exact congrArg (fun q : Placement ↦ { q with placed := q.placed ++ [d] }) hmet

theorem placed_placeAll_of_met {ds : Declarations} (part : List Declaration)
    (hpart : ∀ d ∈ part, d ∈ ds) {p : Placement} (hnodup : (part.map (·.name)).Nodup)
    (hfresh : ∀ d ∈ part, d.name ∉ p.names)
    (hbases : ∀ d ∈ part, ∀ base ∈ d.bases, base ∈ p.names) :
    (placeAll ds part hpart p).placed = p.placed ++ part := by
  induction part generalizing p with
  | nil => exact (List.append_nil _).symm
  | cons d part ih =>
    obtain ⟨hd, hfreshRest⟩ := List.forall_mem_cons.1 hfresh
    obtain ⟨hdbases, hbasesRest⟩ := List.forall_mem_cons.1 hbases
    obtain ⟨hnew, hnodupRest⟩ := List.nodup_cons.1 hnodup
    rw [placeAll, place_of_met _ hd hdbases, ih _ hnodupRest, List.append_assoc,
      List.singleton_append]
    · intro e he hmem
      rcases List.mem_cons.1 hmem with hsame | hold
      · exact hnew (List.mem_map.2 ⟨e, he, hsame⟩)
      · exact hfreshRest e he hold
    · exact fun e he base hbase ↦ List.mem_cons_of_mem _ (hbasesRest e he base hbase)

/-- Where all bases are among the first declarations, those after them keep their place. -/
theorem ordered_append {core more : Declarations}
    (hnodup : (List.map (·.name) (core ++ more)).Nodup) (hrooted : Rooted core (core ++ more)) :
    ordered (core ++ more) = core.ordered ++ more := by
  obtain ⟨hcore, hmore⟩ := List.forall_mem_append.1 hrooted
  rw [List.map_append, List.nodup_append] at hnodup
  obtain ⟨-, hnodup, hdisjoint⟩ := hnodup
  obtain ⟨hplaces, hnames⟩ := places_placeAll core core (fun _ hd ↦ hd) ⟨[], []⟩
  unfold ordered
  rw [placeAll_append, placeAll_of_append hcore core (fun _ hd ↦ hd),
    placed_placeAll_of_met more _ hnodup]
  · intro d hd hmet
    rcases hplaces.met d.name hmet with hempty | ⟨e, he, hname⟩
    · cases hempty
    · rcases hplaces.declared e he with hempty | hcore
      · cases hempty
      · exact hdisjoint _ (List.mem_map_of_mem hcore) _ (List.mem_map_of_mem hd) hname
  · intro d hd base hbase
    obtain ⟨e, he, rfl⟩ := hmore d hd base hbase
    exact hnames e he

end ApiClient.Declarations

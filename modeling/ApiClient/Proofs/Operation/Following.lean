import ApiClient.Operation
import ApiClient.Proofs.Description.Pointers
import Mathlib.Data.List.Nodup
import Mathlib.Logic.Relation

/-!
# Chains of pointers

An object with a pointer stands for the value that the pointer denotes, and this one may be such an
object again. The chain has one way to go on at most, so an object without a pointer, a pointer that
denotes nothing and a value that is no object each end it. A search along the chain meets a pointer
again just where the chain returns to itself. The pointers that it meets are those of objects inside
the description, but for the first one, and there are no more of them than values: the bound on the
steps is never felt.
-/

namespace ApiClient

namespace Value

mutual

/-- The pointers of the objects inside a value, itself included. -/
def pointers : Value → List Value
  | list items => pointersOfAll items
  | map entries => (lookup entries "$ref").toList ++ pointersOfEntries entries
  | _ => []

def pointersOfAll : List Value → List Value
  | [] => []
  | v :: vs => pointers v ++ pointersOfAll vs

def pointersOfEntries : List (Value × Value) → List Value
  | [] => []
  | (_, v) :: es => pointers v ++ pointersOfEntries es

end

mutual

/-- A value holds no more pointers than values. -/
theorem length_pointers_le (v : Value) : v.pointers.length ≤ v.size := by
  match v with
  | list items =>
    have hitems := length_pointersOfAll_le items
    rw [pointers, size]
    omega
  | map entries =>
    have hentries := length_pointersOfEntries_le entries
    have hown : (lookup entries "$ref").toList.length ≤ 1 := by
      cases lookup entries "$ref" <;> simp
    rw [pointers, size, List.length_append]
    omega
  | null | bool _ | int _ | float _ | text _ | bytes _ | date _ | moment _ | pair _ _ | set _
  | knot _ _ | again _ => exact Nat.zero_le _

theorem length_pointersOfAll_le (vs : List Value) :
    (pointersOfAll vs).length ≤ sizeOfAll vs := by
  match vs with
  | [] => exact Nat.zero_le _
  | v :: vs =>
    have hfirst := length_pointers_le v
    have hrest := length_pointersOfAll_le vs
    rw [pointersOfAll, sizeOfAll, List.length_append]
    omega

theorem length_pointersOfEntries_le (es : List (Value × Value)) :
    (pointersOfEntries es).length ≤ sizeOfEntries es := by
  match es with
  | [] => exact Nat.zero_le _
  | (k, v) :: es =>
    have hfirst := length_pointers_le v
    have hrest := length_pointersOfEntries_le es
    rw [pointersOfEntries, sizeOfEntries, List.length_append]
    omega

end

theorem pointers_subset_of_mem {es : List (Value × Value)} {e : Value × Value} (h : e ∈ es) :
    e.2.pointers ⊆ pointersOfEntries es := by
  induction es with
  | nil => cases h
  | cons f es ih =>
    rw [pointersOfEntries]
    obtain rfl | h := List.mem_cons.1 h
    · exact List.subset_append_left _ _
    · exact List.subset_append_of_subset_right _ (ih h)

/-- Where an object points, if it stands for another value. -/
def pointer? (v : Value) : Option Value := v.asMap?.bind (lookup · "$ref")

/-- An object that stands for itself. -/
def IsTarget (v : Value) : Prop := ∃ entries, v.asMap? = some entries ∧ lookup entries "$ref" = none

theorem pointer?_eq_some_iff {v pointer : Value} :
    v.pointer? = some pointer ↔
      ∃ entries, v.asMap? = some entries ∧ lookup entries "$ref" = some pointer := by
  unfold pointer?
  rw [Option.bind_eq_some_iff]

/-- A value is no object, stands for itself or has a pointer. -/
theorem other_or_isTarget_or_pointer (v : Value) :
    v.asMap? = none ∨ v.IsTarget ∨ ∃ pointer, v.pointer? = some pointer := by
  cases hv : v.asMap? with
  | none => exact .inl rfl
  | some entries =>
    cases hpointer : lookup entries "$ref" with
    | none => exact .inr (.inl ⟨entries, hv, hpointer⟩)
    | some pointer => exact .inr (.inr ⟨pointer, pointer?_eq_some_iff.2 ⟨entries, hv, hpointer⟩⟩)

theorem IsTarget.pointer?_eq_none {v : Value} (h : v.IsTarget) : v.pointer? = none := by
  obtain ⟨entries, hv, hpointer⟩ := h
  rw [pointer?, hv, Option.bind_some, hpointer]

theorem pointer?_of_asMap?_eq_none {v : Value} (h : v.asMap? = none) : v.pointer? = none := by
  rw [pointer?, h, Option.bind_none]

theorem mem_pointers_of_pointer? {v pointer : Value} (hjson : v.isJson = true)
    (h : v.pointer? = some pointer) : pointer ∈ v.pointers := by
  obtain ⟨entries, hv, hpointer⟩ := pointer?_eq_some_iff.1 h
  obtain rfl := eq_map_of_asMap? hjson hv
  rw [pointers, hpointer]
  exact List.mem_cons_self

/-- What keys lead to in a value of the notation is one too, and holds no other pointers. -/
theorem of_leads {v part : Value} {keys : List String} (h : Description.Leads v keys part)
    (hjson : v.isJson = true) : part.isJson = true ∧ part.pointers ⊆ v.pointers := by
  induction h with
  | here => exact ⟨hjson, List.Subset.refl _⟩
  | @under v entries key w keys part hv hw _ ih =>
    obtain rfl := eq_map_of_asMap? hjson hv
    obtain ⟨hpart, hsubset⟩ := ih (isJson_of_lookup hjson hw)
    refine ⟨hpart, List.Subset.trans hsubset ?_⟩
    rw [pointers]
    exact List.subset_append_of_subset_right _ (pointers_subset_of_mem (mem_of_lookup hw))

end Value

namespace Operation

open Relation Value

variable {description obj v w found : Value} {seen : List Value}

/-! ## The chain -/

/-- The value is an object whose pointer denotes the other one. -/
def StandsFor (description v w : Value) : Prop :=
  ∃ pointer, v.pointer? = some pointer ∧ Description.resolve description pointer = .ok w

/-- The value is an object whose pointer denotes nothing. -/
def Dangles (description v : Value) : Prop :=
  ∃ pointer fault, v.pointer? = some pointer ∧
    Description.resolve description pointer = .error fault

/-- The chain from a value comes to no object that stands for itself: it returns to where it was,
or it ends with a pointer that denotes nothing or a value that is no object. -/
def Fruitless (description obj : Value) : Prop :=
  ∃ v, ReflTransGen (StandsFor description) obj v ∧
    (TransGen (StandsFor description) v v ∨ Dangles description v ∨ v.asMap? = none)

theorem standsFor_rightUnique (description : Value) :
    Relator.RightUnique (StandsFor description) := by
  rintro v w w' ⟨pointer, hpointer, hw⟩ ⟨pointer', hpointer', hw'⟩
  obtain rfl := Option.some.inj (hpointer.symm.trans hpointer')
  exact Except.ok.inj (hw.symm.trans hw')

/-- The chain ends at a value. -/
def IsLast (description v : Value) : Prop := ∀ w, ¬ StandsFor description v w

theorem isLast_of_pointer?_eq_none (h : v.pointer? = none) : IsLast description v := by
  rintro w ⟨pointer, hpointer, -⟩
  cases h.symm.trans hpointer

theorem Dangles.isLast (h : Dangles description v) : IsLast description v := by
  rintro w ⟨pointer, hpointer, hw⟩
  obtain ⟨pointer', fault, hpointer', hfault⟩ := h
  obtain rfl := Option.some.inj (hpointer.symm.trans hpointer')
  cases hw.symm.trans hfault

theorem IsLast.eq_of_reaches (h : IsLast description v)
    (hreach : ReflTransGen (StandsFor description) v w) : v = w := by
  rcases hreach.cases_head with hsame | ⟨u, hnext, -⟩
  · exact hsame
  · exact absurd hnext (h u)

/-- Every value of the chain leads to the last one. -/
theorem IsLast.reached (h : IsLast description w)
    (hw : ReflTransGen (StandsFor description) obj w)
    (hv : ReflTransGen (StandsFor description) obj v) :
    ReflTransGen (StandsFor description) v w := by
  rcases ReflTransGen.total_of_right_unique (standsFor_rightUnique description) hw hv with hwv | hvw
  · exact h.eq_of_reaches hwv ▸ .refl
  · exact hvw

/-- Behind a value that the chain returns to, it returns to every value. -/
theorem returns_of_reaches (h : TransGen (StandsFor description) v v)
    (hreach : ReflTransGen (StandsFor description) v w) :
    TransGen (StandsFor description) w w := by
  induction hreach with
  | refl => exact h
  | tail _ hnext ih =>
    obtain ⟨u, hu, hback⟩ := TransGen.head'_iff.1 ih
    obtain rfl := standsFor_rightUnique description hu hnext
    exact TransGen.tail' hback hnext

theorem IsLast.not_returns (h : IsLast description v) :
    ¬ TransGen (StandsFor description) v v := by
  intro hreturns
  obtain ⟨u, hu, -⟩ := TransGen.head'_iff.1 hreturns
  exact h u hu

/-- A chain that comes to an object that stands for itself is not fruitless. -/
theorem not_fruitless (hw : ReflTransGen (StandsFor description) obj w) (htarget : w.IsTarget) :
    ¬ Fruitless description obj := by
  have hlast : IsLast description w := isLast_of_pointer?_eq_none htarget.pointer?_eq_none
  rintro ⟨v, hv, hreturns | hdangles | hother⟩
  · exact hlast.not_returns (returns_of_reaches hreturns (hlast.reached hw hv))
  · obtain rfl := hdangles.isLast.eq_of_reaches (hlast.reached hw hv)
    obtain ⟨pointer, fault, hpointer, -⟩ := hdangles
    cases htarget.pointer?_eq_none.symm.trans hpointer
  · have hend : IsLast description v := isLast_of_pointer?_eq_none (pointer?_of_asMap?_eq_none hother)
    obtain rfl := hend.eq_of_reaches (hlast.reached hw hv)
    obtain ⟨entries, hentries, -⟩ := htarget
    cases hother.symm.trans hentries

/-! ## The search -/

/-- The search along a chain, without a bound on its steps: it stops at an object that stands for
itself, or with the empty object at what is no object, at a pointer that it has met and at one that
denotes nothing. -/
inductive Finds (description : Value) : List Value → Value → Value → Prop
  | target {seen : List Value} {v : Value} : v.IsTarget → Finds description seen v v
  | other {seen : List Value} {v : Value} : v.asMap? = none → Finds description seen v (.map [])
  | again {seen : List Value} {v pointer : Value} : v.pointer? = some pointer → pointer ∈ seen →
      Finds description seen v (.map [])
  | dangling {seen : List Value} {v pointer : Value} {fault : Fault} :
      v.pointer? = some pointer → pointer ∉ seen →
      Description.resolve description pointer = .error fault → Finds description seen v (.map [])
  | next {seen : List Value} {v pointer w found : Value} : v.pointer? = some pointer →
      pointer ∉ seen → Description.resolve description pointer = .ok w →
      Finds description (pointer :: seen) w found → Finds description seen v found

theorem isTarget_empty : (Value.map []).IsTarget := ⟨[], rfl, rfl⟩

theorem Finds.isTarget (h : Finds description seen v found) : found.IsTarget := by
  induction h with
  | target h => exact h
  | other | again | dangling => exact isTarget_empty
  | next _ _ _ _ ih => exact ih

/-- A search that has met only pointers of objects from which the chain comes to where it is finds
what the chain comes to, and nothing else than the empty object on a chain that is fruitless. -/
theorem Finds.reached_or_fruitless (h : Finds description seen v found)
    (hv : ReflTransGen (StandsFor description) obj v)
    (hseen : ∀ pointer ∈ seen, ∃ u, u.pointer? = some pointer ∧
      TransGen (StandsFor description) u v) :
    ReflTransGen (StandsFor description) obj found ∨
      found = .map [] ∧ Fruitless description obj := by
  induction h with
  | target => exact .inl hv
  | @other seen v h => exact .inr ⟨rfl, v, hv, .inr (.inr h)⟩
  | @again seen v pointer hpointer hmem =>
    obtain ⟨u, hu, hreach⟩ := hseen pointer hmem
    refine .inr ⟨rfl, v, hv, .inl ?_⟩
    -- what follows the earlier object follows this one too, since they have the same pointer
    obtain ⟨w, ⟨pointer', hpointer', hw⟩, hback⟩ := TransGen.head'_iff.1 hreach
    obtain rfl := Option.some.inj (hu.symm.trans hpointer')
    exact TransGen.head' ⟨pointer, hpointer, hw⟩ hback
  | @dangling seen v pointer fault hpointer _ hfault =>
    exact .inr ⟨rfl, v, hv, .inr (.inl ⟨pointer, fault, hpointer, hfault⟩)⟩
  | @next seen v pointer w found hpointer _ hw _ ih =>
    have hnext : StandsFor description v w := ⟨pointer, hpointer, hw⟩
    refine ih (hv.tail hnext) fun pointer' hmem ↦ ?_
    rcases List.mem_cons.1 hmem with rfl | hmem
    · exact ⟨v, hpointer, .single hnext⟩
    · obtain ⟨u, hu, hreach⟩ := hseen pointer' hmem
      exact ⟨u, hu, hreach.tail hnext⟩

theorem followWithin_of_isTarget (h : v.IsTarget) (fuel : ℕ) (seen : List Value) :
    followWithin description fuel seen v = .ok v := by
  obtain ⟨entries, hv, hpointer⟩ := h
  unfold followWithin
  simp only [hv, hpointer]

theorem followWithin_of_other (h : v.asMap? = none) (fuel : ℕ) (seen : List Value) :
    followWithin description fuel seen v = .ok (.map []) := by
  unfold followWithin
  simp only [h]

/-- A search that comes to a result finds the value itself, or the empty object, or it goes on with
less fuel from what a pointer denotes. -/
theorem followWithin_cases {fuel : ℕ} (h : followWithin description fuel seen v = .ok found) :
    (found = v ∧ v.IsTarget) ∨ found = .map [] ∨ ∃ n pointer target, fuel = n + 1 ∧
      Description.resolve description pointer = .ok target ∧
      followWithin description n (pointer :: seen) target = .ok found := by
  unfold followWithin at h
  split at h
  · next entries hv =>
    split at h
    · next hpointer => exact .inl ⟨(Except.ok.inj h).symm, entries, hv, hpointer⟩
    · split at h
      · cases h
      · split at h
        · exact .inr (.inl (Except.ok.inj h).symm)
        · split at h
          · next htarget => exact .inr (.inr ⟨_, _, _, rfl, htarget, h⟩)
          · exact .inr (.inl (Except.ok.inj h).symm)
          · cases h
          · exact .inr (.inl (Except.ok.inj h).symm)
  · exact .inr (.inl (Except.ok.inj h).symm)

/-- Among pointers that were met a text is looked up as itself. -/
theorem isIn_text_iff {s : String} : (Value.text s).isIn seen = true ↔ .text s ∈ seen := by
  rw [Value.isIn, List.any_eq_true]
  constructor
  · rintro ⟨pointer, hmem, hsame⟩
    exact eq_of_text_same hsame ▸ hmem
  · exact fun hmem ↦ ⟨_, hmem, by rw [same_text]; exact isText_iff.2 rfl⟩

/-- A pointer to follow is a text that was not met. -/
theorem followWithin_of_mem {s : String} (hpointer : v.pointer? = some (.text s))
    (h : .text s ∈ seen) (fuel : ℕ) :
    followWithin description fuel seen v = .ok (.map []) := by
  obtain ⟨entries, hv, hlookup⟩ := pointer?_eq_some_iff.1 hpointer
  unfold followWithin
  simp only [hv, hlookup, hashable, isIn_text_iff.2 h, Bool.not_true, Bool.false_eq_true,
    if_false, if_true]

theorem followWithin_of_not_mem {s : String} (hpointer : v.pointer? = some (.text s))
    (h : .text s ∉ seen) (fuel : ℕ) :
    followWithin description fuel seen v =
      match fuel, Description.resolve description (.text s) with
      | fuel + 1, .ok target => followWithin description fuel (.text s :: seen) target
      | 0, .ok _ => .ok (.map [])
      | _, .error .noSuchPart => .error .noSuchPart
      | _, .error _ => .ok (.map []) := by
  obtain ⟨entries, hv, hlookup⟩ := pointer?_eq_some_iff.1 hpointer
  have hnew : (Value.text s).isIn seen = false := by
    rw [← Bool.not_eq_true, isIn_text_iff]
    exact h
  have hstep := followWithin.eq_def description fuel seen v
  simp only [hv, hlookup, hashable, hnew, Bool.not_true, Bool.false_eq_true, if_false] at hstep
  exact hstep

/-- A text that denotes nothing has a key that is missing or that is asked of what is no object. -/
theorem followWithin_of_error {s : String} {fault : Fault}
    (hpointer : v.pointer? = some (.text s)) (h : .text s ∉ seen)
    (hfault : Description.resolve description (.text s) = .error fault) (fuel : ℕ) :
    followWithin description fuel seen v = .ok (.map []) := by
  have hfollows : Description.Follows description (Description.pointerKeys s) (.error fault) :=
    Description.foldlM_eq_iff.1 hfault
  rw [followWithin_of_not_mem hpointer h, hfault]
  cases fault with
  | noSuchPart => exact hfollows.elim
  | _ => cases fuel <;> rfl

/-- One step of the search, provided that the rest finds what it looks for. -/
theorem finds_followStep {fuel : ℕ} (hword : ∀ pointer ∈ v.pointer?, pointer.isWord = true)
    (hrest : ∀ pointer w, v.pointer? = some pointer → pointer ∉ seen →
      Description.resolve description pointer = .ok w → ∃ n found, fuel = n + 1 ∧
        followWithin description n (pointer :: seen) w = .ok found ∧
        Finds description (pointer :: seen) w found) :
    ∃ found, followWithin description fuel seen v = .ok found ∧
      Finds description seen v found := by
  rcases v.other_or_isTarget_or_pointer with hother | htarget | ⟨pointer, hpointer⟩
  · exact ⟨_, followWithin_of_other hother _ seen, .other hother⟩
  · exact ⟨_, followWithin_of_isTarget htarget _ seen, .target htarget⟩
  · obtain ⟨s, rfl⟩ : ∃ s, pointer = .text s := by
      have htext := hword pointer hpointer
      cases pointer with
      | text s => exact ⟨s, rfl⟩
      | _ => cases htext
    by_cases hmem : .text s ∈ seen
    · exact ⟨_, followWithin_of_mem hpointer hmem _, .again hpointer hmem⟩
    · cases hw : Description.resolve description (.text s) with
      | error fault =>
        exact ⟨_, followWithin_of_error hpointer hmem hw _, .dangling hpointer hmem hw⟩
      | ok w =>
        obtain ⟨n, found, rfl, hfollow, hfinds⟩ := hrest _ w hpointer hmem hw
        refine ⟨found, ?_, .next hpointer hmem hw hfinds⟩
        rw [followWithin_of_not_mem hpointer hmem, hw]
        exact hfollow

/-- While the pointers of a chain are texts from a list that is not longer than the steps that were
made and are left, the bound on the steps is not felt. -/
theorem finds_followWithin {pool : List Value} {fuel : ℕ} (hnodup : seen.Nodup)
    (hsubset : seen ⊆ pool) (hlength : pool.length ≤ seen.length + fuel)
    (hchain : ∀ w, ReflTransGen (StandsFor description) v w →
      ∀ pointer ∈ w.pointer?, pointer ∈ pool ∧ pointer.isWord = true) :
    ∃ found, followWithin description fuel seen v = .ok found ∧
      Finds description seen v found := by
  have hword := fun pointer hpointer ↦ (hchain v .refl pointer hpointer).2
  induction fuel generalizing seen v with
  | zero =>
    refine finds_followStep hword fun pointer w hpointer hnew _ ↦ ?_
    -- all pointers of the list have been met
    have hmet : (pointer :: seen).length ≤ pool.length :=
      (List.nodup_cons.2 ⟨hnew, hnodup⟩).length_le_of_subset
        (List.cons_subset.2 ⟨(hchain v .refl pointer hpointer).1, hsubset⟩)
    rw [List.length_cons] at hmet
    omega
  | succ fuel ih =>
    refine finds_followStep hword fun pointer w hpointer hnew hw ↦ ?_
    have hnext : StandsFor description v w := ⟨pointer, hpointer, hw⟩
    have hrest := fun u hu ↦ hchain u (.head hnext hu)
    obtain ⟨found, hfollow, hfinds⟩ := ih (List.nodup_cons.2 ⟨hnew, hnodup⟩)
      (List.cons_subset.2 ⟨(hchain v .refl pointer hpointer).1, hsubset⟩)
      (by rw [List.length_cons]; omega) hrest fun pointer hpointer ↦ (hrest w .refl pointer hpointer).2
    exact ⟨fuel, found, rfl, hfollow, hfinds⟩

/-- The pointers of a chain are that of its first object and those inside the description. -/
theorem mem_pointers_of_reaches (hjson : description.isJson = true)
    (hreach : ReflTransGen (StandsFor description) obj v) {pointer : Value}
    (hpointer : v.pointer? = some pointer) :
    pointer ∈ obj.pointer?.toList ++ description.pointers := by
  rcases hreach.cases_tail with rfl | ⟨u, -, ⟨pointer', -, hv⟩⟩
  · rw [hpointer]
    exact List.mem_cons_self
  · obtain ⟨keys, hleads⟩ := Description.exists_leads_of_resolve hv
    obtain ⟨hpart, hsubset⟩ := of_leads hleads hjson
    exact List.mem_append_right _ (hsubset (mem_pointers_of_pointer? hpart hpointer))

/-- In a description in the interchange notation, where every pointer that is followed from a value
is a text, the value can be followed to its end. The search ends without a bound on its steps, and
what it finds has no pointer. This is the object without a pointer that the chain comes to, if it
comes to one, and the empty object on a chain that returns to itself, ends with a pointer that
denotes nothing or ends in what is no object. A chain is of the one kind or of the other. -/
theorem follow_ends (hjson : description.isJson = true) (obj : Value)
    (htexts : ∀ v, ReflTransGen (StandsFor description) obj v →
      ∀ pointer ∈ v.pointer?, pointer.isWord = true) :
    ∃ found, follow description obj = .ok found ∧ Finds description [] obj found ∧
      found.IsTarget ∧
      (∀ v, ReflTransGen (StandsFor description) obj v → v.IsTarget → found = v) ∧
      (Fruitless description obj → found = .map []) ∧
      ((∃ v, ReflTransGen (StandsFor description) obj v ∧ v.IsTarget) ↔
        ¬ Fruitless description obj) := by
  have hpool : (obj.pointer?.toList ++ description.pointers).length ≤
      ([] : List Value).length + (description.size + 1) := by
    have hdescription := length_pointers_le description
    have hown : obj.pointer?.toList.length ≤ 1 := by cases obj.pointer? <;> simp
    rw [List.length_append, List.length_nil]
    omega
  obtain ⟨found, hfollow, hfinds⟩ := finds_followWithin List.nodup_nil (List.nil_subset _) hpool
    fun v hv pointer hpointer ↦
      ⟨mem_pointers_of_reaches hjson hv hpointer, htexts v hv pointer hpointer⟩
  have hreached := hfinds.reached_or_fruitless .refl fun _ hmem ↦ absurd hmem List.not_mem_nil
  refine ⟨found, hfollow, hfinds, hfinds.isTarget, fun v hv htarget ↦ ?_, fun hfruitless ↦ ?_,
    fun ⟨v, hv, htarget⟩ ↦ not_fruitless hv htarget, fun hfruitful ↦ ?_⟩
  · have hlast : IsLast description v := isLast_of_pointer?_eq_none htarget.pointer?_eq_none
    have hfound := hreached.resolve_right fun ⟨_, hfruitless⟩ ↦ not_fruitless hv htarget hfruitless
    have hend : IsLast description found :=
      isLast_of_pointer?_eq_none hfinds.isTarget.pointer?_eq_none
    exact hend.eq_of_reaches (hlast.reached hv hfound)
  · exact (hreached.resolve_left fun hfound ↦
      not_fruitless hfound hfinds.isTarget hfruitless).1
  · exact ⟨found, hreached.resolve_right fun ⟨_, hfruitless⟩ ↦ hfruitful hfruitless,
      hfinds.isTarget⟩

/-- An object that points to a parameter. -/
def parameterCalled (name : String) : Value :=
  .map [("$ref", .text ("#/components/parameters/" ++ name))]

/-- Parameters that point to one another. -/
def chained : Value :=
  .map [("components", .map [("parameters", .map [
    ("Limit", parameterCalled "Page~1Size"), ("Page/Size", .map [("name", "size")]),
    ("Back", parameterCalled "Forth"), ("Forth", parameterCalled "Back"),
    ("Lost", parameterCalled "Found")])])]

/-- Of two chains one comes to a parameter and one returns to itself. -/
theorem follow_chained :
    chained.isJson = true ∧
    (∀ name ∈ ["Limit", "Back"], ∀ v,
      ReflTransGen (StandsFor chained) (parameterCalled name) v →
      ∀ pointer ∈ v.pointer?, pointer.isWord = true) ∧
    follow chained (parameterCalled "Limit") = .ok (.map [("name", "size")]) ∧
    Fruitless chained (parameterCalled "Back") ∧
    follow chained (parameterCalled "Back") = .ok (.map []) := by
  have hjson : chained.isJson = true := rfl
  have hwords : ∀ name ∈ ["Limit", "Back"], ∀ pointer ∈
      (parameterCalled name).pointer?.toList ++ chained.pointers, pointer.isWord = true := by
    decide
  have htexts : ∀ name ∈ ["Limit", "Back"], ∀ v,
      ReflTransGen (StandsFor chained) (parameterCalled name) v →
      ∀ pointer ∈ v.pointer?, pointer.isWord = true :=
    fun name hname v hv pointer hpointer ↦
      hwords name hname pointer (mem_pointers_of_reaches hjson hv hpointer)
  have hlimit : ReflTransGen (StandsFor chained) (parameterCalled "Limit")
      (.map [("name", "size")]) :=
    .head ⟨_, rfl, rfl⟩ (.head ⟨_, rfl, rfl⟩ .refl)
  have hback : TransGen (StandsFor chained) (parameterCalled "Back") (parameterCalled "Back") :=
    .head ⟨_, rfl, rfl⟩ (.single ⟨_, rfl, rfl⟩)
  have hfruitless : Fruitless chained (parameterCalled "Back") := ⟨_, .refl, .inl hback⟩
  obtain ⟨found, hfollow, -, -, htarget, -⟩ := follow_ends hjson _ (htexts "Limit" (by decide))
  obtain ⟨found', hfollow', -, -, -, hempty, -⟩ := follow_ends hjson _ (htexts "Back" (by decide))
  exact ⟨hjson, htexts, htarget _ hlimit ⟨_, rfl, rfl⟩ ▸ hfollow, hfruitless,
    hempty hfruitless ▸ hfollow'⟩

end Operation

end ApiClient

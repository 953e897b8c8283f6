import ApiClient.Operation
import ApiClient.Proofs.Value.Shape
import ApiClient.Proofs.Work.Concurrence

/-!
# Descriptions in other words

A value is reworded where nothing but documentation in it is: texts under the keys of documentation
may be others, at any depth. A value may contain itself, so this is the greatest relation that is
closed under the comparison of one level.

Some parts of a description are shown as they stand, the documentation in them included. These are
the choices of an enumeration and the name of a parameter whose place is not supported. They have to
be the same.
-/

namespace ApiClient.Value

/-- The keys of documentation. -/
def proseKeys : List String := ["summary", "description", "title", "version"]

/-- Entries under one key. Their values are related, or they are documentation. -/
structure EntryStep (R : Value → Value → Prop) (e f : Value × Value) : Prop where
  key : f.1 = e.1
  value : R e.2 f.2 ∨ (∃ key ∈ proseKeys, e.1 = .text key) ∧ ∃ s t, e.2 = .text s ∧ f.2 = .text t

/-- The object is for a place where no parameter is sent. -/
def Unplaced (entries : List (Value × Value)) : Prop :=
  ∃ place word, lookup entries "in" = some place ∧ place.word? = .ok word ∧
    word.bind Place.ofText? = none

/-- Maps whose entries are related. What is shown of them as it stands is the same. -/
structure MapStep (R : Value → Value → Prop) (es fs : List (Value × Value)) : Prop where
  entries : List.Forall₂ (EntryStep R) es fs
  choices : Schema.listUnder? fs "enum" = Schema.listUnder? es "enum"
  name : Unplaced es → lookup fs "name" = lookup es "name"

/-- One level of the comparison, where the parts have to be related. -/
inductive Step (R : Value → Value → Prop) : Value → Value → Prop
  | refl (v) : Step R v v
  | pair {a b c d} : R a c → R b d → Step R (.pair a b) (.pair c d)
  | list {v w vs ws} : v.asList? = some vs → w.asList? = some ws → List.Forall₂ R vs ws → Step R v w
  | map {v w es fs} : v.asMap? = some es → w.asMap? = some fs → MapStep R es fs → Step R v w

/-- The second value is the first one in other words. -/
def Reworded (v w : Value) : Prop := ∃ R : Value → Value → Prop, (∀ v w, R v w → Step R v w) ∧ R v w

/-- The second value is the first one in other words, or they are texts. -/
def Akin (v w : Value) : Prop := Reworded v w ∨ ∃ s t, v = .text s ∧ w = .text t

theorem EntryStep.mono {R S : Value → Value → Prop} (h : ∀ v w, R v w → S v w) {e f : Value × Value}
    (hstep : EntryStep R e f) : EntryStep S e f :=
  ⟨hstep.key, hstep.value.imp_left (h _ _)⟩

theorem MapStep.mono {R S : Value → Value → Prop} (h : ∀ v w, R v w → S v w)
    {es fs : List (Value × Value)} (hstep : MapStep R es fs) : MapStep S es fs :=
  ⟨hstep.entries.imp fun _ _ ↦ .mono h, hstep.choices, hstep.name⟩

theorem Step.mono {R S : Value → Value → Prop} (h : ∀ v w, R v w → S v w) {v w : Value}
    (hstep : Step R v w) : Step S v w := by
  cases hstep with
  | refl => exact .refl v
  | pair hfirst hsecond => exact .pair (h _ _ hfirst) (h _ _ hsecond)
  | list hv hw hitems => exact .list hv hw (hitems.imp h)
  | map hv hw hentries => exact .map hv hw (hentries.mono h)

namespace Reworded

theorem step {v w : Value} (h : Reworded v w) : Step Reworded v w := by
  obtain ⟨R, hR, hvw⟩ := h
  exact (hR v w hvw).mono fun v w hvw ↦ ⟨R, hR, hvw⟩

theorem of_step {v w : Value} (h : Step Reworded v w) : Reworded v w :=
  ⟨Step Reworded, fun _ _ hstep ↦ hstep.mono fun _ _ ↦ step, h⟩

theorem refl (v : Value) : Reworded v v := of_step (.refl v)

theorem map {es fs : List (Value × Value)} (h : MapStep Reworded es fs) :
    Reworded (.map es) (.map fs) :=
  of_step (.map rfl rfl h)

end Reworded

theorem EntryStep.refl (e : Value × Value) : EntryStep Reworded e e := ⟨rfl, .inl (.refl _)⟩

theorem MapStep.refl (es : List (Value × Value)) : MapStep Reworded es es :=
  ⟨List.forall₂_same.2 fun e _ ↦ .refl e, rfl, fun _ ↦ rfl⟩

theorem EntryStep.part (key : Value) {v w : Value} (h : Reworded v w) :
    EntryStep Reworded (key, v) (key, w) := ⟨rfl, .inl h⟩

theorem EntryStep.prose {key : String} (hkey : key ∈ proseKeys) (s t : String) :
    EntryStep Reworded (.text key, .text s) (.text key, .text t) :=
  ⟨rfl, .inr ⟨⟨key, hkey, rfl⟩, s, t, rfl, rfl⟩⟩

theorem EntryStep.akin {e f : Value × Value} (h : EntryStep Reworded e f) : Akin e.2 f.2 :=
  h.value.imp_right And.right

/-- Both or neither of two related options are there. -/
theorem cases_of_rel {α β : Type} {R : α → β → Prop} {x : Option α} {y : Option β}
    (h : Option.Rel R x y) : x = none ∧ y = none ∨ ∃ a b, x = some a ∧ y = some b ∧ R a b := by
  cases h with
  | none => exact .inl ⟨rfl, rfl⟩
  | some hab => exact .inr ⟨_, _, rfl, rfl, hab⟩

/-! ## What rewording leaves as it is -/

variable {v w : Value}

namespace Reworded

theorem rel_asMap? (h : Reworded v w) : Option.Rel (MapStep Reworded) v.asMap? w.asMap? := by
  cases h.step with
  | refl =>
    cases v.asMap? with
    | none => exact .none
    | some es => exact .some (.refl es)
  | pair => exact .none
  | list hv hw =>
    rw [asMap?_of_asList? hv, asMap?_of_asList? hw]
    exact .none
  | map hv hw hentries =>
    rw [hv, hw]
    exact .some hentries

theorem rel_asList? (h : Reworded v w) :
    Option.Rel (List.Forall₂ Reworded) v.asList? w.asList? := by
  cases h.step with
  | refl =>
    cases v.asList? with
    | none => exact .none
    | some vs => exact .some (List.forall₂_same.2 fun v _ ↦ refl v)
  | pair => exact .none
  | list hv hw hitems =>
    rw [hv, hw]
    exact .some hitems
  | map hv hw =>
    rw [asList?_of_asMap? hv, asList?_of_asMap? hw]
    exact .none

theorem truthy_eq (h : Reworded v w) : w.truthy = v.truthy := by
  cases h.step with
  | refl => rfl
  | pair => rfl
  | list hv hw hitems =>
    rw [truthy_of_asList? hv, truthy_of_asList? hw]
    cases hitems <;> rfl
  | map hv hw hentries =>
    rw [truthy_of_asMap? hv, truthy_of_asMap? hw]
    cases hentries.entries <;> rfl

/-- What can be a key is the same in other words. -/
theorem eq_or_unhashable : ∀ {v w : Value}, Reworded v w →
    w = v ∨ v.hashable = false ∧ w.hashable = false := by
  intro v w h
  cases h.step with
  | refl => exact .inl rfl
  | @pair a b c d hfirst hsecond =>
    rcases eq_or_unhashable hfirst with rfl | ⟨ha, hc⟩
    · rcases eq_or_unhashable hsecond with rfl | ⟨hb, hd⟩
      · exact .inl rfl
      · exact .inr (by simp [hashable, hb, hd])
    · exact .inr (by simp [hashable, ha, hc])
  | list hv hw => exact .inr ⟨hashable_of_asList? hv, hashable_of_asList? hw⟩
  | map hv hw => exact .inr ⟨hashable_of_asMap? hv, hashable_of_asMap? hw⟩
termination_by v => sizeOf v

theorem eq_of_hashable (h : Reworded v w) (hv : v.hashable = true) : w = v := by
  rcases h.eq_or_unhashable with rfl | ⟨hunhashable, -⟩
  · rfl
  · rw [hv] at hunhashable
    cases hunhashable

theorem eq_of_hashable' (h : Reworded v w) (hw : w.hashable = true) : w = v := by
  rcases h.eq_or_unhashable with rfl | ⟨-, hunhashable⟩
  · rfl
  · rw [hw] at hunhashable
    cases hunhashable

theorem isText_eq (h : Reworded v w) (s : String) : w.isText s = v.isText s := by
  rcases h.eq_or_unhashable with rfl | ⟨hv, hw⟩
  · rfl
  · have hnone {u : Value} (hu : u.hashable = false) : u.isText s = false := by
      cases u with
      | text => cases hu
      | _ => rfl
    rw [hnone hv, hnone hw]

/-- What can be looked up in a set of texts is the same in other words. -/
theorem eq_of_word? (h : Reworded v w) {word : Option String} (hv : v.word? = .ok word) :
    w = v := by
  by_cases hhashable : v.hashable = true
  · exact h.eq_of_hashable hhashable
  · cases h.step with
    | refl => rfl
    | pair => simp [word?, hhashable] at hv
    | list hlist =>
      obtain rfl | ⟨mark, ws, rfl, -⟩ := shape_of_asList? hlist <;> cases hv
    | map hmap =>
      obtain rfl | ⟨mark, fs, rfl, -⟩ := shape_of_asMap? hmap <;> cases hv

theorem orEmptyMap (h : Reworded v w) : Reworded v.orEmptyMap w.orEmptyMap := by
  unfold Value.orEmptyMap
  rw [h.truthy_eq]
  split
  · exact h
  · exact refl _

theorem orEmptyList (h : Reworded v w) : Reworded v.orEmptyList w.orEmptyList := by
  unfold Value.orEmptyList
  rw [h.truthy_eq]
  split
  · exact h
  · exact refl _

end Reworded

theorem Akin.rel_asMap? (h : Akin v w) : Option.Rel (MapStep Reworded) v.asMap? w.asMap? := by
  rcases h with h | ⟨s, t, rfl, rfl⟩
  · exact h.rel_asMap?
  · exact .none

/-! ## Entries -/

theorem MapStep.keys_eq {es fs : List (Value × Value)} (h : MapStep Reworded es fs) :
    fs.map (·.1) = es.map (·.1) := by
  obtain ⟨hentries, -, -⟩ := h
  induction hentries with
  | nil => rfl
  | cons hfirst _ ih => rw [List.map_cons, List.map_cons, hfirst.key, ih]

/-- Under one key there are values that are akin, or none. -/
theorem MapStep.rel_lookup {es fs : List (Value × Value)} (h : MapStep Reworded es fs)
    (key : String) :
    Option.Rel Akin (lookup es key) (lookup fs key) ∧
      (key ∉ proseKeys → Option.Rel Reworded (lookup es key) (lookup fs key)) := by
  obtain ⟨hentries, -, -⟩ := h
  unfold lookup
  induction hentries with
  | nil => exact ⟨.none, fun _ ↦ .none⟩
  | @cons e f es fs hfirst _ ih =>
    rw [List.find?_cons, List.find?_cons, hfirst.key]
    cases hkey : e.1.isText key with
    | false => exact ih
    | true =>
      refine ⟨.some hfirst.akin, fun hprose ↦ .some ?_⟩
      rcases hfirst.value with hvalue | ⟨⟨prose, hmem, htext⟩, -⟩
      · exact hvalue
      · rw [isText_iff.1 hkey] at htext
        exact absurd (Value.text.inj htext ▸ hmem) hprose

namespace Reworded

theorem concur_entries (h : Reworded v w) : Concur (MapStep Reworded) v.entries w.entries := by
  unfold Value.entries
  obtain ⟨hv, hw⟩ | ⟨es, fs, hv, hw, hentries⟩ := cases_of_rel h.rel_asMap?
  · rw [hv]
    exact .error_left _
  · rw [hv, hw]
    exact .ok hentries

theorem concur_field? (h : Reworded v w) (key : String) (hkey : key ∉ proseKeys) :
    Concur (Option.Rel Reworded) (v.field? key) (w.field? key) :=
  h.concur_entries.map fun _ _ hentries ↦ (hentries.rel_lookup key).2 hkey

theorem getD_of_rel {x y : Option Value} (h : Option.Rel Reworded x y) (default : Value) :
    Reworded (x.getD default) (y.getD default) := by
  cases h with
  | none => exact refl default
  | some hvalue => exact hvalue

theorem concur_field (h : Reworded v w) (key : String) (hkey : key ∉ proseKeys) :
    Concur Reworded (v.field key) (w.field key) :=
  (h.concur_field? key hkey).map fun _ _ hfield ↦ getD_of_rel hfield null

/-- The name is the same where the place is not supported. -/
theorem concur_field_name (h : Reworded v w) :
    Concur (fun a b ↦ Reworded a b ∧
      ((∃ place word, v.field? "in" = .ok (some place) ∧ place.word? = .ok word ∧
        word.bind Place.ofText? = none) → b = a))
      (v.field "name") (w.field "name") := by
  unfold field field? Value.entries
  obtain ⟨hv, hw⟩ | ⟨es, fs, hv, hw, hentries⟩ := cases_of_rel h.rel_asMap?
  · rw [hv]
    exact .error_left _
  · rw [hv, hw]
    refine .ok ⟨getD_of_rel ((hentries.rel_lookup "name").2 (by decide)) null, ?_⟩
    rintro ⟨place, word, hplace, hunsupported⟩
    exact congrArg (·.getD null) (hentries.name ⟨place, word, Except.ok.inj hplace, hunsupported⟩)

theorem concur_items (h : Reworded v w) : Concur (List.Forall₂ Reworded) v.items w.items := by
  cases h.step with
  | refl =>
    refine (Concur.refl _).mono ?_
    rintro vs _ rfl
    exact List.forall₂_same.2 fun v _ ↦ refl v
  | pair hfirst hsecond => exact .ok (.cons hfirst (.cons hsecond .nil))
  | list hv hw hitems =>
    rw [items_of_asList? hv, items_of_asList? hw]
    exact .ok hitems
  | map hv hw hentries =>
    rw [items_of_asMap? hv, items_of_asMap? hw, hentries.keys_eq]
    exact .ok (List.forall₂_same.2 fun v _ ↦ refl v)

theorem concur_asText (h : Reworded v w) : Concur Eq v.asText w.asText := by
  rcases h.eq_or_unhashable with rfl | ⟨hv, -⟩
  · exact .refl _
  · cases v with
    | text => cases hv
    | bytes => exact .error_left _
    | _ => exact .error_left _

theorem concur_word? (h : Reworded v w) :
    Concur (fun a b ↦ b = a ∧ w = v) v.word? w.word? where
  rel hv hw := by
    obtain rfl := h.eq_of_word? hv
    exact ⟨Except.ok.inj (hw.symm.trans hv), rfl⟩

end Reworded

end ApiClient.Value

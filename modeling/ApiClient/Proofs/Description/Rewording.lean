import ApiClient.Proofs.Rewording

/-!
# Shapes and pointers in other words

A schema object in other words has the same shape, and a pointer that is followed through a
description in other words comes to a part in other words, or to texts that are documentation.
-/

namespace ApiClient

open Value

namespace Schema

variable {es fs : List (Value × Value)}

theorem rel_listUnder? (h : MapStep Reworded es fs) (key : String) (hkey : key ∉ proseKeys) :
    Option.Rel (List.Forall₂ Reworded) (listUnder? es key) (listUnder? fs key) := by
  unfold listUnder?
  obtain ⟨hv, hw⟩ | ⟨v, w, hv, hw, hvalue⟩ := cases_of_rel ((h.rel_lookup key).2 hkey)
  · rw [hv, hw]
    exact .none
  · rw [hv, hw]
    exact hvalue.rel_asList?

theorem rel_or {α : Type} {R : α → α → Prop} {x x' y y' : Option α} (h : Option.Rel R x y)
    (h' : Option.Rel R x' y') : Option.Rel R (x.or x') (y.or y') := by
  cases h with
  | none => exact h'
  | some h => exact .some h

theorem has_eq (h : MapStep Reworded es fs) (key : String) : has fs key = has es key := by
  unfold has
  obtain ⟨hv, hw⟩ | ⟨v, w, hv, hw, -⟩ := cases_of_rel (h.rel_lookup key).1
  · rw [hv, hw]
  · rw [hv, hw]
    rfl

theorem reworded_under (h : MapStep Reworded es fs) (key : String) (hkey : key ∉ proseKeys) :
    Reworded ((lookup es key).getD .null) ((lookup fs key).getD .null) :=
  Reworded.getD_of_rel ((h.rel_lookup key).2 hkey) .null

theorem rel_find? {p : Value → Bool} (hp : ∀ v w, Reworded v w → p w = p v) {vs ws : List Value}
    (h : List.Forall₂ Reworded vs ws) : Option.Rel Reworded (vs.find? p) (ws.find? p) := by
  induction h with
  | nil => exact .none
  | cons hfirst _ ih =>
    rw [List.find?_cons, List.find?_cons, hp _ _ hfirst]
    split
    · exact .some hfirst
    · exact ih

theorem reworded_declaredType (h : MapStep Reworded es fs) :
    Reworded (declaredType es) (declaredType fs) := by
  have htype := reworded_under h "type" (by decide)
  unfold declaredType
  obtain ⟨hv, hw⟩ | ⟨vs, ws, hv, hw, htypes⟩ := cases_of_rel htype.rel_asList?
  · simp only [hv, hw]
    exact htype
  · simp only [hv, hw]
    exact Reworded.getD_of_rel (rel_find? (fun _ _ h ↦ by rw [h.isText_eq]) htypes) .null

theorem concur_parseProperties {parsePart parsePart' : Value → Except Fault Schema}
    (hpart : ∀ {v w}, Akin v w → Concur Eq (parsePart v) (parsePart' w)) (required : List Value)
    (h : List.Forall₂ (EntryStep Reworded) es fs) :
    Concur Eq (parseProperties parsePart required es) (parseProperties parsePart' required fs) := by
  induction h with
  | nil => exact .refl _
  | @cons e f es fs hfirst _ ih =>
    obtain ⟨name, v⟩ := e
    obtain ⟨name', w⟩ := f
    obtain rfl : name' = name := hfirst.key
    apply (hpart hfirst.akin).bind
    rintro type _ rfl
    apply ih.bind
    rintro rest _ rfl
    exact .refl _

theorem parseAdditional_of_ne (parsePart : Value → Except Fault Schema) {v : Value}
    (h : v ≠ .bool true) : parseAdditional parsePart v =
      if v.asMap?.isSome then (parsePart v).map some else .ok none := by
  unfold parseAdditional
  split
  · exact absurd rfl h
  · rfl

theorem concur_parseAdditional {parsePart parsePart' : Value → Except Fault Schema}
    (hpart : ∀ {v w}, Akin v w → Concur Eq (parsePart v) (parsePart' w)) {v w : Value}
    (h : Reworded v w) :
    Concur Eq (parseAdditional parsePart v) (parseAdditional parsePart' w) := by
  by_cases hv : v = .bool true
  · subst hv
    obtain rfl := h.eq_of_hashable rfl
    exact .refl _
  · have hw : w ≠ .bool true := by
      rintro rfl
      exact hv (h.eq_of_hashable' rfl).symm
    rw [parseAdditional_of_ne _ hv, parseAdditional_of_ne _ hw]
    obtain ⟨hv, hw⟩ | ⟨es, fs, hv, hw, -⟩ := cases_of_rel h.rel_asMap?
    · rw [hv, hw]
      exact .refl _
    · rw [hv, hw]
      exact (hpart (.inl h)).map fun _ _ ↦ congrArg some

theorem eq_of_all_hashable {vs ws : List Value} (h : List.Forall₂ Reworded vs ws)
    (hvs : vs.all hashable = true) : ws = vs := by
  induction h with
  | nil => rfl
  | cons hfirst _ ih =>
    rw [List.all_cons, Bool.and_eq_true] at hvs
    rw [hfirst.eq_of_hashable hvs.1, ih hvs.2]

theorem concur_requiredNames (h : MapStep Reworded es fs) :
    Concur Eq (requiredNames es) (requiredNames fs) := by
  have hitems := (reworded_under h "required" (by decide)).orEmptyList.concur_items
  unfold requiredNames
  apply hitems.bind
  intro names names' hnames
  split
  · next hhashable =>
    rw [eq_of_all_hashable hnames hhashable, if_pos hhashable]
    exact .refl _
  · exact .error_left _

theorem concur_parseObject {parsePart parsePart' : Value → Except Fault Schema}
    (hpart : ∀ {v w}, Akin v w → Concur Eq (parsePart v) (parsePart' w))
    (h : MapStep Reworded es fs) :
    Concur Eq (parseObject parsePart es) (parseObject parsePart' fs) := by
  apply (concur_requiredNames h).bind
  rintro required _ rfl
  apply (reworded_under h "properties" (by decide)).orEmptyMap.concur_entries.bind
  intro properties properties' hproperties
  apply (concur_parseProperties hpart required hproperties.entries).bind
  rintro fields _ rfl
  apply (concur_parseAdditional hpart
    (reworded_under h "additionalProperties" (by decide))).bind
  rintro additional _ rfl
  exact .refl _

theorem concur_scalarKind? {v w : Value} (h : Reworded v w) :
    Concur Eq (scalarKind? v) (scalarKind? w) :=
  h.concur_word?.map fun _ _ hword ↦ by rw [hword.1]

theorem concur_parseScalar {v w : Value} (h : MapStep Reworded es fs) (htype : Reworded v w) :
    Concur Eq (parseScalar es v) (parseScalar fs w) := by
  unfold parseScalar
  rw [h.choices]
  split
  · apply (concur_scalarKind? htype).bind
    rintro kind _ rfl
    exact .refl _
  · apply (concur_scalarKind? htype).bind
    rintro kind _ rfl
    exact .refl _

theorem concur_members {parsePart parsePart' : Value → Except Fault Schema}
    (hpart : ∀ {v w}, Akin v w → Concur Eq (parsePart v) (parsePart' w)) {vs ws : List Value}
    (h : List.Forall₂ Reworded vs ws) : Concur Eq (vs.mapM parsePart) (ws.mapM parsePart') :=
  (Concur.mapM (fun _ _ h ↦ hpart (.inl h)) h).mono fun _ _ hschemas ↦ by
    rwa [List.forall₂_eq_eq_eq] at hschemas

theorem concur_parseEntries {parsePart parsePart' : Value → Except Fault Schema}
    (hpart : ∀ {v w}, Akin v w → Concur Eq (parsePart v) (parsePart' w))
    (h : MapStep Reworded es fs) :
    Concur Eq (parseEntries parsePart es) (parseEntries parsePart' fs) := by
  unfold parseEntries
  obtain ⟨hv, hw⟩ | ⟨v, w, hv, hw, hpointer⟩ :=
    cases_of_rel ((h.rel_lookup "$ref").2 (by decide))
  · rw [hv, hw]
    simp only []
    obtain ⟨hv, hw⟩ | ⟨vs, ws, hv, hw, hmembers⟩ :=
      cases_of_rel (rel_listUnder? h "allOf" (by decide))
    · rw [hv, hw]
      simp only []
      obtain ⟨hv, hw⟩ | ⟨vs, ws, hv, hw, hmembers⟩ := cases_of_rel (rel_or
        (rel_listUnder? h "oneOf" (by decide)) (rel_listUnder? h "anyOf" (by decide)))
      · rw [hv, hw]
        simp only []
        have htype := reworded_declaredType h
        have hformat := reworded_under h "format" (by decide)
        simp only [htype.isText_eq, hformat.isText_eq, has_eq h]
        refine .ite (concur_parseObject hpart h) (.ite ?_ (.ite (.refl _)
          (concur_parseScalar h htype)))
        apply (hpart (.inl (reworded_under h "items" (by decide)))).bind
        rintro element _ rfl
        exact .refl _
      · rw [hv, hw]
        apply (concur_members hpart hmembers).bind
        rintro schemas _ rfl
        exact .refl _
    · rw [hv, hw]
      apply (concur_members hpart hmembers).bind
      rintro schemas _ rfl
      exact .refl _
  · rw [hv, hw]
    apply hpointer.concur_asText.bind
    rintro text _ rfl
    exact .refl _

theorem concur_parseWithin (levels levels' : Nat) {v w : Value} (h : Akin v w) :
    Concur Eq (parseWithin levels v) (parseWithin levels' w) := by
  induction levels generalizing levels' v w with
  | zero => exact .error_left _
  | succ levels ih =>
    cases levels' with
    | zero => exact .error_right _
    | succ levels' =>
      unfold parseWithin
      obtain ⟨hv, hw⟩ | ⟨es, fs, hv, hw, hentries⟩ := cases_of_rel h.rel_asMap?
      · rw [hv, hw]
        exact .refl _
      · rw [hv, hw]
        cases hentries.entries with
        | nil => exact .refl _
        | cons => exact concur_parseEntries (ih levels') hentries

theorem concur_parse {v w : Value} (h : Akin v w) : Concur Eq (parse v) (parse w) :=
  concur_parseWithin v.size w.size h

end Schema

namespace Description

variable {description description' : Value}

theorem concur_parseSchemas {es fs : List (Value × Value)}
    (h : List.Forall₂ (EntryStep Reworded) es fs) : Concur Eq (parseSchemas es) (parseSchemas fs) := by
  induction h with
  | nil => exact .refl _
  | @cons e f es fs hfirst _ ih =>
    obtain ⟨name, v⟩ := e
    obtain ⟨name', w⟩ := f
    obtain rfl : name' = name := hfirst.key
    apply (Schema.concur_parse hfirst.akin).bind
    rintro schema _ rfl
    apply ih.bind
    rintro rest _ rfl
    exact .refl _

/-- The named schemas have the same shapes in other words. -/
theorem concur_shapes (h : Reworded description description') :
    Concur Eq (shapes description) (shapes description') := by
  have hschemas : Concur Reworded (schemas description) (schemas description') :=
    (h.concur_field "components" (by decide)).bind fun _ _ hcomponents ↦
      (hcomponents.orEmptyMap.concur_field "schemas" (by decide)).bind fun _ _ hschemas ↦
        .ok hschemas.orEmptyMap
  exact hschemas.bind fun _ _ hschemas ↦ hschemas.concur_entries.bind fun _ _ hentries ↦
    concur_parseSchemas hentries.entries

/-! ## Pointers -/

theorem descend_cases {v w : Value} (h : Akin v w) (key : String) :
    (∃ a b, descend v key = .ok a ∧ descend w key = .ok b ∧ Akin a b) ∨
      ∃ fault, descend v key = .error fault ∧ descend w key = .error fault := by
  unfold descend
  obtain ⟨hv, hw⟩ | ⟨es, fs, hv, hw, hentries⟩ := cases_of_rel h.rel_asMap?
  · rw [hv, hw]
    exact .inr ⟨_, rfl, rfl⟩
  · rw [hv, hw]
    simp only []
    obtain ⟨hv, hw⟩ | ⟨a, b, hv, hw, hvalue⟩ := cases_of_rel (hentries.rel_lookup key).1
    · rw [hv, hw]
      exact .inr ⟨_, rfl, rfl⟩
    · rw [hv, hw]
      exact .inl ⟨a, b, rfl, rfl, hvalue⟩

/-- The second description is the first one in other words, with as many values in it. -/
structure Rewording (description description' : Value) : Prop where
  reworded : Reworded description description'
  size_eq : description'.size = description.size

/-- A pointer denotes values that are akin, or fails in the same way. -/
theorem resolve_cases (h : Reworded description description') (pointer : Value) :
    (∃ a b, resolve description pointer = .ok a ∧ resolve description' pointer = .ok b ∧
      Akin a b) ∨
      ∃ fault, resolve description pointer = .error fault ∧
        resolve description' pointer = .error fault := by
  unfold resolve
  cases pointer.asText with
  | error fault => exact .inr ⟨fault, rfl, rfl⟩
  | ok text =>
    change (∃ a b, (pointerKeys text).foldlM descend description = .ok a ∧
        (pointerKeys text).foldlM descend description' = .ok b ∧ Akin a b) ∨
      ∃ fault, (pointerKeys text).foldlM descend description = .error fault ∧
        (pointerKeys text).foldlM descend description' = .error fault
    have hakin : Akin description description' := .inl h
    generalize pointerKeys text = keys, description = v, description' = w at hakin
    clear h
    induction keys generalizing v w with
    | nil => exact .inl ⟨v, w, rfl, rfl, hakin⟩
    | cons key keys ih =>
      rw [List.foldlM_cons, List.foldlM_cons]
      obtain ⟨a, b, ha, hb, hparts⟩ | ⟨fault, ha, hb⟩ := descend_cases hakin key
      · rw [ha, hb]
        exact ih a b hparts
      · rw [ha, hb]
        exact .inr ⟨fault, rfl, rfl⟩

end Description

end ApiClient

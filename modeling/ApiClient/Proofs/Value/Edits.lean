import ApiClient.Proofs.Value.Json

/-!
# Edited entries

A map is edited where its entries get other values, or where those under a key are left out. What is
looked up in it afterwards is what was there, edited. A value that contains itself is opened first,
and a value that is no map stays as it is.
-/

namespace ApiClient.Value

/-- The entries with other values, which may depend on the keys. -/
def mapEntries (f : Value → Value → Value) (es : List (Value × Value)) : List (Value × Value) :=
  es.map fun e ↦ (e.1, f e.1 e.2)

/-- The entries without those under a key. -/
def without (key : String) (es : List (Value × Value)) : List (Value × Value) :=
  es.filter (!·.1.isText key)

theorem lookup_mapEntries (f : Value → Value → Value) (es : List (Value × Value)) (key : String) :
    lookup (mapEntries f es) key = (lookup es key).map (f (.text key)) := by
  induction es with
  | nil => rfl
  | cons e es ih =>
    rw [mapEntries, List.map_cons, lookup_cons, lookup_cons]
    change (if e.1.isText key = true then _ else lookup (mapEntries f es) key) = _
    rw [ih]
    split
    · next hkey => rw [isText_iff.1 hkey, Option.map_some]
    · rfl

theorem lookup_without_self (key : String) (es : List (Value × Value)) :
    lookup (without key es) key = none := by
  rw [lookup_eq_none_iff]
  intro hmem
  obtain ⟨e, he, hkey⟩ := List.mem_map.1 hmem
  have hother := (List.mem_filter.1 he).2
  rw [hkey] at hother
  simp [isText] at hother

theorem lookup_without_of_ne {key key' : String} (h : key' ≠ key) (es : List (Value × Value)) :
    lookup (without key es) key' = lookup es key' := by
  unfold lookup without
  rw [List.find?_filter]
  congr 2
  funext e
  by_cases hkey : e.1.isText key' = true
  · rw [hkey, isText_iff.1 hkey]
    simpa [isText] using h
  · simp [hkey]

/-- The value with its entries edited, if it is a map. -/
def edited (edit : List (Value × Value) → List (Value × Value)) (v : Value) : Value :=
  match v.asMap? with
  | some es => .map (edit es)
  | none => v

theorem field?_of_asMap? {v : Value} {es : List (Value × Value)} (h : v.asMap? = some es)
    (key : String) : v.field? key = .ok (lookup es key) := by
  unfold field? entries
  rw [h]
  rfl

theorem field_of_asMap? {v : Value} {es : List (Value × Value)} (h : v.asMap? = some es)
    (key : String) : v.field key = .ok ((lookup es key).getD .null) := by
  unfold field
  rw [field?_of_asMap? h]
  rfl

theorem exists_asMap?_of_field {v w : Value} {key : String} (h : v.field key = .ok w) :
    ∃ es, v.asMap? = some es := by
  unfold field field? at h
  cases hentries : v.entries with
  | error fault =>
    rw [hentries] at h
    cases h
  | ok es => exact ⟨es, asMap?_of_entries hentries⟩

theorem edited_of_asMap? (edit : List (Value × Value) → List (Value × Value)) {v : Value}
    {es : List (Value × Value)} (h : v.asMap? = some es) : v.edited edit = .map (edit es) := by
  unfold edited
  rw [h]

theorem edited_of_asMap?_eq_none (edit : List (Value × Value) → List (Value × Value)) {v : Value}
    (h : v.asMap? = none) : v.edited edit = v := by
  unfold edited
  rw [h]

/-- A value that is read as entries is still read so when it has other values in them. -/
theorem entries_edited (f : Value → Value → Value) {v : Value} {es : List (Value × Value)}
    (h : v.orEmptyMap.entries = .ok es) :
    (v.edited (mapEntries f)).orEmptyMap.entries = .ok (mapEntries f es) := by
  cases hv : v.asMap? with
  | none =>
    rw [edited_of_asMap?_eq_none _ hv]
    unfold orEmptyMap at h ⊢
    split at h
    · unfold entries at h
      rw [hv] at h
      cases h
    · next hfalse =>
      rw [if_neg hfalse, ← Except.ok.inj h]
      rfl
  | some fs =>
    have hes : fs = es := by
      unfold orEmptyMap at h
      rw [truthy_of_asMap? hv] at h
      unfold entries at h
      cases fs with
      | nil => exact Except.ok.inj h
      | cons f fs =>
        rw [if_pos (by rfl), hv] at h
        exact Except.ok.inj h
    rw [edited_of_asMap? _ hv, hes]
    cases es <;> rfl

theorem exists_mapEntries_of_edited {f : Value → Value → Value} {v : Value}
    {fs : List (Value × Value)} (h : (v.edited (mapEntries f)).orEmptyMap.entries = .ok fs) :
    ∃ es, fs = mapEntries f es := by
  cases hv : v.asMap? with
  | none =>
    rw [edited_of_asMap?_eq_none _ hv] at h
    unfold orEmptyMap at h
    split at h
    · unfold entries at h
      rw [hv] at h
      cases h
    · exact ⟨[], (Except.ok.inj h).symm⟩
  | some es =>
    rw [edited_of_asMap? _ hv] at h
    refine ⟨es, ?_⟩
    cases es with
    | nil => exact (Except.ok.inj h).symm
    | cons e es => exact (Except.ok.inj h).symm

theorem items_orEmptyList (vs : List Value) : (Value.list vs).orEmptyList.items = .ok vs := by
  cases vs <;> rfl

end ApiClient.Value

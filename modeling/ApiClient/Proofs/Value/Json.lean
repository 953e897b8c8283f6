import ApiClient.Proofs.Value.Shape

/-!
# Values of the interchange notation

What a text in the interchange notation can hold: null, truth values, numbers and texts, lists of
such values, and maps from distinct texts to such values. None of them contains itself. Such a
value is therefore a list or a map by its own constructor, and its parts are smaller than it.
-/

namespace ApiClient.Value

mutual

/-- Whether a text in the interchange notation can hold the value. -/
def isJson : Value → Bool
  | null | bool _ | int _ | float _ | text _ => true
  | list items => allJson items
  | map entries => entriesJson entries
  | bytes _ | date _ | moment _ | pair _ _ | set _ | knot _ _ | again _ => false

def allJson : List Value → Bool
  | [] => true
  | v :: vs => isJson v && allJson vs

/-- The keys are distinct texts. -/
def entriesJson : List (Value × Value) → Bool
  | [] => true
  | (text key, v) :: es => (lookup es key).isNone && isJson v && entriesJson es
  | _ :: _ => false

end

/-- Whether the value is a text. -/
def isWord : Value → Bool
  | text _ => true
  | _ => false

/-! ## Lookup -/

/-- The value under a key, null where there is none. -/
def under (entries : List (Value × Value)) (key : String) : Value := (lookup entries key).getD .null

theorem lookup_cons (e : Value × Value) (es : List (Value × Value)) (key : String) :
    lookup (e :: es) key = if e.1.isText key then some e.2 else lookup es key := by
  unfold lookup
  rw [List.find?_cons]
  cases e.1.isText key <;> rfl

theorem lookup_cons_text (k : String) (v : Value) (es : List (Value × Value)) (key : String) :
    lookup ((text k, v) :: es) key = if k = key then some v else lookup es key := by
  rw [lookup_cons]
  simp [isText]

theorem mem_of_lookup {es : List (Value × Value)} {key : String} {v : Value}
    (h : lookup es key = some v) : (text key, v) ∈ es := by
  induction es with
  | nil => cases h
  | cons e es ih =>
    rw [lookup_cons] at h
    split at h
    · next hkey =>
      obtain ⟨k, w⟩ := e
      obtain rfl : k = text key := isText_iff.1 hkey
      obtain rfl : w = v := Option.some.inj h
      exact List.mem_cons_self
    · exact List.mem_cons_of_mem e (ih h)

theorem lookup_eq_none_iff {es : List (Value × Value)} {key : String} :
    lookup es key = none ↔ text key ∉ es.map (·.1) := by
  unfold lookup
  rw [Option.map_eq_none_iff, List.find?_eq_none]
  simp only [isText_iff, List.mem_map, not_exists, not_and]

/-! ## Parts -/

theorem allJson_iff {vs : List Value} : allJson vs = true ↔ ∀ v ∈ vs, v.isJson = true := by
  induction vs with
  | nil => simp [allJson]
  | cons v vs ih => simp [allJson, ih]

theorem isJson_of_mem_list {vs : List Value} (h : (list vs).isJson = true) {v : Value}
    (hv : v ∈ vs) : v.isJson = true := by
  rw [isJson] at h
  exact allJson_iff.1 h v hv

/-- The entries of a map of the notation: a text that no later key repeats, and values of the
notation. -/
theorem entriesJson_cons {e : Value × Value} {es : List (Value × Value)} :
    entriesJson (e :: es) = true ↔ ∃ key v, e = (text key, v) ∧ lookup es key = none ∧
      v.isJson = true ∧ entriesJson es = true := by
  obtain ⟨k, v⟩ := e
  cases k <;> simp [entriesJson, and_assoc]

/-- The keys are distinct texts. -/
theorem entriesJson_iff {es : List (Value × Value)} :
    entriesJson es = true ↔
      (es.map (·.1)).Nodup ∧ ∀ e ∈ es, e.1.isWord = true ∧ e.2.isJson = true := by
  induction es with
  | nil => simp [entriesJson]
  | cons e es ih =>
    rw [entriesJson_cons, List.map_cons, List.nodup_cons, List.forall_mem_cons, ih]
    constructor
    · rintro ⟨key, v, rfl, hfresh, hv, hnodup, hrest⟩
      exact ⟨⟨lookup_eq_none_iff.1 hfresh, hnodup⟩, ⟨rfl, hv⟩, hrest⟩
    · rintro ⟨⟨hfresh, hnodup⟩, ⟨hword, hv⟩, hrest⟩
      obtain ⟨k, v⟩ := e
      cases k with
      | text key => exact ⟨key, v, rfl, lookup_eq_none_iff.2 hfresh, hv, hnodup, hrest⟩
      | _ => cases hword

theorem exists_of_mem_map {es : List (Value × Value)} (h : (map es).isJson = true)
    {e : Value × Value} (he : e ∈ es) :
    ∃ key v, e = (text key, v) ∧ lookup es key = some v ∧ v.isJson = true := by
  rw [isJson] at h
  induction es with
  | nil => cases he
  | cons first es ih =>
    obtain ⟨k, w, rfl, hfresh, hw, hrest⟩ := entriesJson_cons.1 h
    obtain rfl | he := List.mem_cons.1 he
    · exact ⟨k, w, rfl, by rw [lookup_cons_text, if_pos rfl], hw⟩
    · obtain ⟨key, v, rfl, hkey, hv⟩ := ih hrest he
      refine ⟨key, v, rfl, ?_, hv⟩
      -- the first key is another one: the rest does not hold it
      have hne : k ≠ key := by
        rintro rfl
        rw [hfresh] at hkey
        cases hkey
      rw [lookup_cons_text, if_neg hne, hkey]

theorem isJson_of_mem_map {es : List (Value × Value)} (h : (map es).isJson = true)
    {e : Value × Value} (he : e ∈ es) : e.2.isJson = true := by
  obtain ⟨key, v, rfl, -, hv⟩ := exists_of_mem_map h he
  exact hv

/-- In a map of the notation an entry is the only one under its key. -/
theorem lookup_eq_some_iff {es : List (Value × Value)} (h : (map es).isJson = true) {key : String}
    {v : Value} : lookup es key = some v ↔ (text key, v) ∈ es := by
  refine ⟨mem_of_lookup, fun hv ↦ ?_⟩
  obtain ⟨k, w, heq, hw, -⟩ := exists_of_mem_map h hv
  cases heq
  exact hw

theorem isJson_of_lookup {es : List (Value × Value)} (h : (map es).isJson = true) {key : String}
    {v : Value} (hv : lookup es key = some v) : v.isJson = true :=
  isJson_of_mem_map h (mem_of_lookup hv)

theorem isJson_under {es : List (Value × Value)} (h : (map es).isJson = true) (key : String) :
    (under es key).isJson = true := by
  unfold under
  cases hv : lookup es key with
  | none => rfl
  | some v => exact isJson_of_lookup h hv

/-! ## Shapes -/

/-- A list of the notation is one by its constructor. -/
theorem eq_list_of_asList? {v : Value} (h : v.isJson = true) {vs : List Value}
    (hvs : v.asList? = some vs) : v = list vs := by
  obtain rfl | ⟨mark, ws, rfl, -⟩ := shape_of_asList? hvs
  · rfl
  · cases h

theorem eq_map_of_asMap? {v : Value} (h : v.isJson = true) {es : List (Value × Value)}
    (hes : v.asMap? = some es) : v = map es := by
  obtain rfl | ⟨mark, fs, rfl, -⟩ := shape_of_asMap? hes
  · rfl
  · cases h

@[simp]
theorem asMap?_map (es : List (Value × Value)) : (map es).asMap? = some es := rfl

/-! ## Sizes -/

theorem size_pos (v : Value) : 0 < v.size := by cases v <;> simp [size]

theorem size_lt_of_mem_list {vs : List Value} {v : Value} (hv : v ∈ vs) :
    v.size < (list vs).size := by
  rw [size, Nat.lt_succ_iff]
  induction vs with
  | nil => cases hv
  | cons w ws ih =>
    rw [sizeOfAll]
    obtain rfl | hv := List.mem_cons.1 hv
    · exact Nat.le_add_right _ _
    · exact Nat.le_add_left_of_le (ih hv)

theorem size_lt_of_mem_map {es : List (Value × Value)} {e : Value × Value} (he : e ∈ es) :
    e.2.size < (map es).size := by
  rw [size, Nat.lt_succ_iff]
  induction es with
  | nil => cases he
  | cons f fs ih =>
    rw [sizeOfEntries]
    obtain rfl | he := List.mem_cons.1 he
    · omega
    · have := ih he
      omega

end ApiClient.Value

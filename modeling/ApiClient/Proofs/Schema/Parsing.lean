import ApiClient.Proofs.Value.Json
import ApiClient.Schema

/-!
# Reading schemas one level at a time

A schema object is read by one of six branches, of which the first that applies decides. The
branch also settles which values the reading goes on to. Two ways of reading parts give the same
shape when they agree on these values. A value of the interchange notation is larger than any of
its parts, so the bound on the levels is never felt, and the shape of an object is read from the
shapes of its parts.
-/

namespace ApiClient.Schema

open Value

/-- What decides the shape of a schema object: a pointer, the members of a composition, being an
object or an array, or none of these. -/
inductive Branch where
  | reference (pointer : Value)
  | allOf (members : List Value)
  | oneOf (members : List Value)
  | object
  | array
  | scalar

/-- A pointer comes first, then a list of members, then what makes an object, then the type of
arrays. -/
def branch (schema : List (Value × Value)) : Branch :=
  match lookup schema "$ref" with
  | some pointer => .reference pointer
  | none =>
    match listUnder? schema "allOf" with
    | some members => .allOf members
    | none =>
      match (listUnder? schema "oneOf").or (listUnder? schema "anyOf") with
      | some members => .oneOf members
      | none =>
        if (declaredType schema).isText "object" || has schema "properties" ||
            has schema "additionalProperties" then .object
        else if (declaredType schema).isText "array" then .array
        else .scalar

/-- The values of the properties, if the properties are a map. -/
def propertyValues (schema : List (Value × Value)) : List Value :=
  ((under schema "properties").asMap?.getD []).map (·.2)

/-- The schema of further properties, if it is a map. -/
def additionalValues (schema : List (Value × Value)) : List Value :=
  if (under schema "additionalProperties").asMap?.isSome then [under schema "additionalProperties"]
  else []

/-- The values that a branch goes on to. -/
def Branch.parts (schema : List (Value × Value)) : Branch → List Value
  | reference _ | scalar => []
  | allOf members | oneOf members => members
  | object => propertyValues schema ++ additionalValues schema
  | array => [under schema "items"]

/-- The values that the reading of a schema object goes on to. -/
def parts (schema : List (Value × Value)) : List Value := (branch schema).parts schema

/-- The shape of a schema object that has no parts and no pointer. -/
def parsePlain (schema : List (Value × Value)) : Except Fault Schema :=
  if (declaredType schema).isText "string" && (under schema "format").isText "binary" then
    .ok binary
  else parseScalar schema (declaredType schema)

/-- The shape that a branch makes of the shapes of its parts. -/
def Branch.read (parsePart : Value → Except Fault Schema) (schema : List (Value × Value)) :
    Branch → Except Fault Schema
  | reference pointer => pointer.asText.map fun text ↦ .reference (referenceName text)
  | allOf members => (members.mapM parsePart).map .allOf
  | oneOf members => (members.mapM parsePart).map .oneOf
  | object => parseObject parsePart schema
  | array => (parsePart (under schema "items")).map .array
  | scalar => parsePlain schema

variable {es : List (Value × Value)} {p q : Value → Except Fault Schema}

theorem bind_ok_eq_map {α β : Type} (x : Except Fault α) (f : α → β) :
    (x >>= fun a ↦ .ok (f a)) = x.map f := by
  cases x <;> rfl

/-- One level is read by its branch. -/
theorem parseEntries_eq (p : Value → Except Fault Schema) (es : List (Value × Value)) :
    parseEntries p es = (branch es).read p es := by
  unfold parseEntries branch
  cases lookup es "$ref" with
  | some pointer => exact bind_ok_eq_map _ _
  | none =>
    cases listUnder? es "allOf" with
    | some members => exact bind_ok_eq_map _ _
    | none =>
      cases (listUnder? es "oneOf").or (listUnder? es "anyOf") with
      | some members => exact bind_ok_eq_map _ _
      | none =>
        simp only []
        split
        · rfl
        · split
          · exact bind_ok_eq_map _ _
          · rfl

/-! ## Agreement on the parts -/

theorem mapM_congr {vs : List Value} (h : ∀ v ∈ vs, p v = q v) : vs.mapM p = vs.mapM q := by
  induction vs with
  | nil => rfl
  | cons v vs ih =>
    rw [List.mapM_cons, List.mapM_cons, h v List.mem_cons_self,
      ih fun w hw ↦ h w (List.mem_cons_of_mem v hw)]

theorem parseProperties_congr (required : List Value)
    (h : ∀ v ∈ es.map (·.2), p v = q v) :
    parseProperties p required es = parseProperties q required es := by
  induction es with
  | nil => rfl
  | cons e es ih =>
    obtain ⟨name, v⟩ := e
    rw [parseProperties, parseProperties, h v List.mem_cons_self,
      ih fun w hw ↦ h w (List.mem_cons_of_mem v hw)]

theorem parseAdditional_congr
    (h : ∀ v ∈ additionalValues es, p v = q v) :
    parseAdditional p (under es "additionalProperties") =
      parseAdditional q (under es "additionalProperties") := by
  unfold parseAdditional
  unfold additionalValues at h
  split
  · rfl
  · split
    · next hmap =>
      rw [if_pos hmap] at h
      rw [h _ List.mem_cons_self]
    · rfl

/-- The entries of the properties are those of the map, if they are one. -/
theorem asMap?_of_entries_orEmptyMap {v : Value} {fs : List (Value × Value)}
    (h : v.orEmptyMap.entries = .ok fs) : v.asMap?.getD [] = fs := by
  unfold orEmptyMap at h
  cases htruthy : v.truthy with
  | true =>
    rw [htruthy, if_pos rfl] at h
    rw [asMap?_of_entries h, Option.getD_some]
  | false =>
    rw [htruthy, if_neg Bool.false_ne_true] at h
    obtain rfl : [] = fs := Except.ok.inj h
    cases hv : v.asMap? with
    | none => rfl
    | some gs =>
      rw [truthy_of_asMap? hv] at htruthy
      simpa using htruthy

theorem parseObject_congr (h : ∀ v ∈ propertyValues es ++ additionalValues es, p v = q v) :
    parseObject p es = parseObject q es := by
  unfold parseObject
  cases requiredNames es with
  | error fault => rfl
  | ok required =>
    cases hproperties : (under es "properties").orEmptyMap.entries with
    | error fault =>
      unfold under at hproperties
      rw [hproperties]
      rfl
    | ok properties =>
      have hvalues : propertyValues es = properties.map (·.2) := by
        rw [propertyValues, asMap?_of_entries_orEmptyMap hproperties]
      rw [hvalues] at h
      unfold under at hproperties
      rw [hproperties]
      have hfields := parseProperties_congr required fun v hv ↦
        h v (List.mem_append_left (additionalValues es) hv)
      have hadditional := parseAdditional_congr fun v hv ↦
        h v (List.mem_append_right (properties.map (·.2)) hv)
      unfold under at hadditional
      change (parseProperties p required properties >>= fun fields ↦ _) =
        parseProperties q required properties >>= fun fields ↦ _
      rw [hfields, hadditional]

theorem Branch.read_congr (b : Branch) (h : ∀ v ∈ b.parts es, p v = q v) :
    b.read p es = b.read q es := by
  cases b with
  | reference => rfl
  | allOf => exact congrArg (Except.map Schema.allOf) (mapM_congr h)
  | oneOf => exact congrArg (Except.map Schema.oneOf) (mapM_congr h)
  | object => exact parseObject_congr h
  | array => exact congrArg (Except.map Schema.array) (h _ List.mem_cons_self)
  | scalar => rfl

/-- The shape of a schema object depends on the reading of its parts alone. -/
theorem parseEntries_congr (h : ∀ v ∈ parts es, p v = q v) :
    parseEntries p es = parseEntries q es := by
  rw [parseEntries_eq, parseEntries_eq]
  exact (branch es).read_congr h

/-! ## Parts of a value of the notation -/

/-- What lies inside the entries of a map, and null for what is absent. -/
inductive Lies (es : List (Value × Value)) : Value → Prop where
  | absent : Lies es null
  | entry {e : Value × Value} : e ∈ es → Lies es e.2
  | item {vs : List Value} {v : Value} : Lies es (list vs) → v ∈ vs → Lies es v
  | value {fs : List (Value × Value)} {e : Value × Value} : Lies es (map fs) → e ∈ fs → Lies es e.2

namespace Lies

theorem isJson (hjson : (map es).isJson = true) {v : Value} (h : Lies es v) :
    v.isJson = true := by
  induction h with
  | absent => rfl
  | entry he => exact isJson_of_mem_map hjson he
  | item _ hv ih => exact isJson_of_mem_list ih hv
  | value _ he ih => exact isJson_of_mem_map ih he

theorem size_lt (hes : es ≠ []) {v : Value} (h : Lies es v) : v.size < (map es).size := by
  induction h with
  | absent =>
    obtain ⟨e, fs, rfl⟩ := List.exists_cons_of_ne_nil hes
    have := size_pos e.2
    simp only [size, sizeOfEntries]
    omega
  | entry he => exact size_lt_of_mem_map he
  | item _ hv ih => exact Nat.lt_trans (size_lt_of_mem_list hv) ih
  | value _ he ih => exact Nat.lt_trans (size_lt_of_mem_map he) ih

theorem of_lookup {key : String} {v : Value} (h : lookup es key = some v) : Lies es v :=
  entry (mem_of_lookup h)

theorem under (es : List (Value × Value)) (key : String) : Lies es (under es key) := by
  unfold Value.under
  cases h : lookup es key with
  | none => exact absent
  | some v => exact of_lookup h

theorem of_listUnder? (hjson : (map es).isJson = true) {key : String} {vs : List Value}
    (h : listUnder? es key = some vs) {v : Value} (hv : v ∈ vs) : Lies es v := by
  unfold listUnder? at h
  obtain ⟨w, hw, hvs⟩ := Option.bind_eq_some_iff.1 h
  obtain rfl := eq_list_of_asList? (isJson_of_lookup hjson hw) hvs
  exact (of_lookup hw).item hv

end Lies

theorem lies_of_mem_propertyValues (hjson : (map es).isJson = true) {v : Value}
    (h : v ∈ propertyValues es) : Lies es v := by
  have hproperties := Lies.under es "properties"
  obtain ⟨e, he, rfl⟩ := List.mem_map.1 h
  cases hmap : (under es "properties").asMap? with
  | none => simp [hmap] at he
  | some fs =>
    rw [hmap] at he
    rw [eq_map_of_asMap? (hproperties.isJson hjson) hmap] at hproperties
    exact hproperties.value he

theorem lies_of_mem_additionalValues {v : Value} (h : v ∈ additionalValues es) : Lies es v := by
  unfold additionalValues at h
  split at h
  · rw [List.mem_singleton.1 h]
    exact Lies.under es "additionalProperties"
  · cases h

/-- The members of a composition are those of a list under one of three keys. -/
theorem exists_listUnder?_of_branch {members : List Value}
    (h : branch es = .allOf members ∨ branch es = .oneOf members) :
    ∃ key, listUnder? es key = some members := by
  unfold branch at h
  cases href : lookup es "$ref" with
  | some pointer => simp [href] at h
  | none =>
    cases hall : listUnder? es "allOf" with
    | some vs =>
      obtain rfl : vs = members := by simpa [href, hall] using h
      exact ⟨"allOf", hall⟩
    | none =>
      cases hone : listUnder? es "oneOf" with
      | some vs =>
        obtain rfl : vs = members := by simpa [href, hall, hone] using h
        exact ⟨"oneOf", hone⟩
      | none =>
        cases hany : listUnder? es "anyOf" with
        | some vs =>
          obtain rfl : vs = members := by simpa [href, hall, hone, hany] using h
          exact ⟨"anyOf", hany⟩
        | none =>
          simp only [href, hall, hone, hany, Option.or_none] at h
          split at h
          · simp at h
          · split at h <;> simp at h

/-- The reading goes on to what lies inside the object. -/
theorem lies_of_mem_parts (hjson : (map es).isJson = true) {v : Value} (h : v ∈ parts es) :
    Lies es v := by
  unfold parts at h
  cases hbranch : branch es with
  | reference | scalar =>
    rw [hbranch] at h
    cases h
  | allOf members =>
    rw [hbranch] at h
    obtain ⟨key, hkey⟩ := exists_listUnder?_of_branch (.inl hbranch)
    exact Lies.of_listUnder? hjson hkey h
  | oneOf members =>
    rw [hbranch] at h
    obtain ⟨key, hkey⟩ := exists_listUnder?_of_branch (.inr hbranch)
    exact Lies.of_listUnder? hjson hkey h
  | object =>
    rw [hbranch] at h
    obtain h | h := List.mem_append.1 h
    · exact lies_of_mem_propertyValues hjson h
    · exact lies_of_mem_additionalValues h
  | array =>
    rw [hbranch] at h
    rw [List.mem_singleton.1 h]
    exact Lies.under es "items"

theorem isJson_of_mem_parts (hjson : (map es).isJson = true) {v : Value} (h : v ∈ parts es) :
    v.isJson = true :=
  (lies_of_mem_parts hjson h).isJson hjson

theorem size_lt_of_mem_parts (hjson : (map es).isJson = true) {v : Value} (h : v ∈ parts es) :
    v.size < (map es).size := by
  have hes : es ≠ [] := by
    rintro rfl
    cases h
  exact (lies_of_mem_parts hjson h).size_lt hes

/-- What holds of a value as soon as it holds of the parts that its reading goes on to holds of
every value of the notation. -/
theorem induction_on_parts {motive : Value → Prop}
    (step : ∀ v : Value, v.isJson = true →
      (∀ schema, v = map schema → ∀ w ∈ parts schema, motive w) → motive v)
    (v : Value) (hjson : v.isJson = true) : motive v :=
  step v hjson fun _ hv w hw ↦
    have hschema := hv ▸ hjson
    have _decreasing : w.size < v.size := hv ▸ size_lt_of_mem_parts hschema hw
    induction_on_parts step w (isJson_of_mem_parts hschema hw)
termination_by v.size

/-! ## Levels -/

/-- As many levels as there are values are enough, and more change nothing. -/
theorem parseWithin_eq_parseWithin {v : Value} (hjson : v.isJson = true) {m n : Nat}
    (hm : v.size ≤ m) (hn : v.size ≤ n) : parseWithin m v = parseWithin n v := by
  induction m generalizing v n with
  | zero => exact absurd (Nat.lt_of_lt_of_le v.size_pos hm) (Nat.lt_irrefl 0)
  | succ m ih =>
    cases n with
    | zero => exact absurd (Nat.lt_of_lt_of_le v.size_pos hn) (Nat.lt_irrefl 0)
    | succ n =>
      unfold parseWithin
      cases hes : v.asMap? with
      | none => rfl
      | some es =>
        obtain rfl := eq_map_of_asMap? hjson hes
        cases es with
        | nil => rfl
        | cons e es =>
          refine parseEntries_congr fun w hw ↦ ?_
          have hsize := size_lt_of_mem_parts hjson hw
          exact ih (isJson_of_mem_parts hjson hw) (by omega) (by omega)

theorem parseWithin_eq_parse {v : Value} (hjson : v.isJson = true) {n : Nat} (h : v.size ≤ n) :
    parseWithin n v = parse v :=
  parseWithin_eq_parseWithin hjson h (Nat.le_refl v.size)

/-- A schema object is read from the shapes of its parts. -/
theorem parse_map (hjson : (map es).isJson = true) : parse (map es) = parseEntries parse es := by
  cases es with
  | nil => rfl
  | cons e es =>
    exact parseEntries_congr fun w hw ↦ parseWithin_eq_parse (isJson_of_mem_parts hjson hw)
      (Nat.le_of_lt_succ (size_lt_of_mem_parts hjson hw))

/-- What is no map has no shape. -/
theorem parse_of_asMap? {v : Value} (h : v.asMap? = none) : parse v = .ok anything := by
  unfold parse
  obtain ⟨n, hn⟩ := Nat.exists_eq_succ_of_ne_zero (Nat.ne_of_gt v.size_pos)
  rw [hn, parseWithin, h]

end ApiClient.Schema

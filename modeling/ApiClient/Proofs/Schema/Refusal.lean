import ApiClient.Proofs.Schema.Parsing

/-!
# Schemas that are refused

The reading of a schema has a result unless it visits an object that is refused by itself: one
whose pointer is no text, whose required names cannot be gone through or cannot be keys, whose
properties are no map, or whose type is a list or a map where only the type is left to decide. An
object is refused in the branch that reads the offending value and in no other.
-/

namespace ApiClient

namespace Value

def isNumber : Value → Bool
  | int _ | float _ => true
  | _ => false

/-- A list or a map. -/
def isContainer : Value → Bool
  | list _ | map _ => true
  | _ => false

theorem hashable_eq_not_isContainer {v : Value} (hjson : v.isJson = true) :
    v.hashable = !v.isContainer := by
  cases v with
  | bytes | date | moment | pair | set | knot | again => cases hjson
  | _ => rfl

end Value

namespace Schema

open Value

/-- A value that counts as present and that no set of names can be made of. -/
def Unnameable (v : Value) : Prop :=
  v.truthy = true ∧
    (v.isNumber = true ∨ v = .bool true ∨ ∃ vs, v = .list vs ∧ ∃ w ∈ vs, w.isContainer = true)

/-- Why a schema object is refused whatever its parts are. -/
inductive Refused (schema : List (Value × Value)) : Prop where
  /-- A pointer is no text. -/
  | pointer {v : Value} : lookup schema "$ref" = some v → (∀ s, v ≠ .text s) → Refused schema
  /-- The required names of an object cannot be names. -/
  | required {v : Value} : branch schema = .object → lookup schema "required" = some v →
      Unnameable v → Refused schema
  /-- The properties of an object are present and no map. -/
  | properties {v : Value} : branch schema = .object → lookup schema "properties" = some v →
      v.truthy = true → (∀ fs, v ≠ .map fs) → Refused schema
  /-- The type is all that is left to decide, and it is a list or a map. -/
  | type : branch schema = .scalar → (declaredType schema).isContainer = true → Refused schema

/-- What the reading of a value goes through: the value and, from a schema object on, its parts. -/
inductive Visits : Value → Value → Prop where
  | here (v : Value) : Visits v v
  | part {schema : List (Value × Value)} {v w : Value} : v ∈ parts schema → Visits v w →
      Visits (.map schema) w

/-! ## Results of several steps -/

variable {α β : Type}

theorem exists_ok_bind {x : Except Fault α} {f : α → Except Fault β} :
    (∃ b, (x >>= f) = .ok b) ↔ ∃ a, x = .ok a ∧ ∃ b, f a = .ok b := by
  cases x with
  | error fault =>
    constructor
    · rintro ⟨b, hb⟩
      cases hb
    · rintro ⟨a, ha, -⟩
      cases ha
  | ok a =>
    constructor
    · rintro ⟨b, hb⟩
      exact ⟨a, rfl, b, hb⟩
    · rintro ⟨a', ha, b, hb⟩
      cases ha
      exact ⟨b, hb⟩

theorem exists_ok_map {x : Except Fault α} {f : α → β} :
    (∃ b, x.map f = .ok b) ↔ ∃ a, x = .ok a := by
  rw [← bind_ok_eq_map, exists_ok_bind]
  exact exists_congr fun a ↦ and_iff_left ⟨f a, rfl⟩

theorem exists_ok_mapM {f : α → Except Fault β} {as : List α} :
    (∃ bs, as.mapM f = .ok bs) ↔ ∀ a ∈ as, ∃ b, f a = .ok b := by
  induction as with
  | nil => exact iff_of_true ⟨[], rfl⟩ (List.forall_mem_nil _)
  | cons a as ih =>
    rw [List.mapM_cons, exists_ok_bind, List.forall_mem_cons, ← ih]
    constructor
    · rintro ⟨b, hb, h⟩
      obtain ⟨bs, hbs, -⟩ := exists_ok_bind.1 h
      exact ⟨⟨b, hb⟩, bs, hbs⟩
    · rintro ⟨⟨b, hb⟩, bs, hbs⟩
      exact ⟨b, hb, exists_ok_bind.2 ⟨bs, hbs, b :: bs, rfl⟩⟩

theorem exists_error_iff {x : Except Fault α} : (∃ fault, x = .error fault) ↔ ¬∃ a, x = .ok a := by
  cases x <;> simp

/-! ## The steps of one level -/

variable {es : List (Value × Value)} {p : Value → Except Fault Schema}

theorem exists_ok_asText {v : Value} : (∃ s, v.asText = .ok s) ↔ ∃ s, v = .text s := by
  cases v <;> simp [asText]

/-- What is absent or empty is no fault, and of the rest only a text, a list of keys or a map has
names. -/
theorem exists_ok_items {v : Value} (hjson : v.isJson = true) :
    (∃ vs, v.orEmptyList.items = .ok vs ∧ vs.all hashable = true) ↔ ¬Unnameable v := by
  unfold Unnameable orEmptyList
  cases v with
  | bytes | date | moment | pair | set | knot | again => cases hjson
  | null => simp [truthy, items, opened]
  | bool b => cases b <;> simp [truthy, items, opened]
  | int n =>
    by_cases hn : n = 0 <;> simp [truthy, items, opened, isNumber, hn]
  | float x => cases hx : x.isZero <;> simp [truthy, items, opened, isNumber, hx]
  | text s =>
    by_cases hs : s = "" <;> simp [truthy, items, opened, isNumber, hashable, hs]
  | list vs =>
    have hkeys : vs.all hashable = true ↔ ¬∃ w ∈ vs, w.isContainer = true := by
      rw [List.all_eq_true]
      push Not
      refine forall_congr' fun w ↦ forall_congr' fun hw ↦ ?_
      rw [hashable_eq_not_isContainer (isJson_of_mem_list hjson hw)]
      simp
    cases vs <;> simp_all [truthy, items, opened, isNumber]
  | map fs =>
    have hkeys : (fs.map (·.1)).all hashable = true := by
      refine List.all_eq_true.2 fun k hk ↦ ?_
      obtain ⟨f, hf, rfl⟩ := List.mem_map.1 hk
      obtain ⟨key, w, rfl, -⟩ := exists_of_mem_map hjson hf
      rfl
    cases fs with
    | nil => simp [truthy, items, opened]
    | cons f fs => simpa [truthy, items, opened, isNumber] using hkeys

theorem exists_ok_requiredNames (hjson : (map es).isJson = true) :
    (∃ names, requiredNames es = .ok names) ↔ ¬Unnameable (under es "required") := by
  rw [← exists_ok_items (isJson_under hjson "required")]
  unfold requiredNames
  rw [exists_ok_bind]
  refine exists_congr fun names ↦ and_congr_right fun _ ↦ ?_
  cases names.all hashable <;> simp

theorem exists_ok_entries {v : Value} (hjson : v.isJson = true) :
    (∃ fs, v.orEmptyMap.entries = .ok fs) ↔ ¬(v.truthy = true ∧ ∀ fs, v ≠ .map fs) := by
  unfold orEmptyMap
  cases htruthy : v.truthy with
  | false => simp [Value.entries]
  | true =>
    cases v with
    | bytes | date | moment | pair | set | knot | again => cases hjson
    | map fs => simp [Value.entries]
    | _ => simp [Value.entries, asMap?, opened]

theorem exists_ok_parseProperties {required : List Value} {fs : List (Value × Value)} :
    (∃ fields, parseProperties p required fs = .ok fields) ↔
      ∀ v ∈ fs.map (·.2), ∃ s, p v = .ok s := by
  induction fs with
  | nil => exact iff_of_true ⟨[], rfl⟩ (List.forall_mem_nil _)
  | cons f fs ih =>
    obtain ⟨name, v⟩ := f
    rw [parseProperties, exists_ok_bind, List.map_cons, List.forall_mem_cons, ← ih]
    constructor
    · rintro ⟨s, hs, h⟩
      obtain ⟨fields, hfields, -⟩ := exists_ok_bind.1 h
      exact ⟨⟨s, hs⟩, fields, hfields⟩
    · rintro ⟨⟨s, hs⟩, fields, hfields⟩
      exact ⟨s, hs, exists_ok_bind.2 ⟨fields, hfields, _, rfl⟩⟩

theorem exists_ok_parseAdditional :
    (∃ s, parseAdditional p (under es "additionalProperties") = .ok s) ↔
      ∀ v ∈ additionalValues es, ∃ s, p v = .ok s := by
  unfold parseAdditional additionalValues
  split
  · next h => simp [h, asMap?, opened]
  · split
    · rw [exists_ok_map, List.forall_mem_singleton]
    · simp

theorem exists_ok_parseObject (hjson : (map es).isJson = true) :
    (∃ s, parseObject p es = .ok s) ↔
      ¬Unnameable (under es "required") ∧
      ¬((under es "properties").truthy = true ∧ ∀ fs, under es "properties" ≠ .map fs) ∧
      ∀ v ∈ propertyValues es ++ additionalValues es, ∃ s, p v = .ok s := by
  rw [List.forall_mem_append, ← exists_ok_requiredNames hjson,
    ← exists_ok_entries (isJson_under hjson "properties"), ← exists_ok_parseAdditional]
  have hvalues {properties : List (Value × Value)}
      (h : (under es "properties").orEmptyMap.entries = .ok properties) :
      propertyValues es = properties.map (·.2) := by
    rw [propertyValues, asMap?_of_entries_orEmptyMap h]
  unfold parseObject
  constructor
  · intro h
    obtain ⟨required, hrequired, h⟩ := exists_ok_bind.1 h
    obtain ⟨properties, hproperties, h⟩ := exists_ok_bind.1 h
    obtain ⟨fields, hfields, h⟩ := exists_ok_bind.1 h
    obtain ⟨additional, hadditional, -⟩ := exists_ok_bind.1 h
    refine ⟨⟨required, hrequired⟩, ⟨properties, hproperties⟩, ?_, ⟨additional, hadditional⟩⟩
    rw [hvalues hproperties]
    exact exists_ok_parseProperties.1 ⟨fields, hfields⟩
  · rintro ⟨⟨required, hrequired⟩, ⟨properties, hproperties⟩, hparts, additional, hadditional⟩
    rw [hvalues hproperties] at hparts
    obtain ⟨fields, hfields⟩ := exists_ok_parseProperties.2 hparts
    exact exists_ok_bind.2 ⟨required, hrequired, exists_ok_bind.2 ⟨properties, hproperties,
      exists_ok_bind.2 ⟨fields, hfields, exists_ok_bind.2 ⟨additional, hadditional, _, rfl⟩⟩⟩⟩

theorem isJson_declaredType (hjson : (map es).isJson = true) :
    (declaredType es).isJson = true := by
  have htype := isJson_under hjson "type"
  unfold under at htype
  unfold declaredType
  simp only []
  split
  · next types htypes =>
    rw [eq_list_of_asList? htype htypes] at htype
    cases hfirst : types.find? fun t : Value ↦ !t.isText "null" with
    | none => rfl
    | some t => exact isJson_of_mem_list htype (List.mem_of_find?_eq_some hfirst)
  · exact htype

theorem exists_ok_scalarKind? {v : Value} (hjson : v.isJson = true) :
    (∃ kind, scalarKind? v = .ok kind) ↔ v.isContainer = false := by
  cases v with
  | bytes | date | moment | pair | set | knot | again => cases hjson
  | _ => simp [scalarKind?, word?, hashable, isContainer, Except.map]

theorem exists_ok_parseScalar {v : Value} (hjson : v.isJson = true) :
    (∃ s, parseScalar es v = .ok s) ↔ v.isContainer = false := by
  rw [← exists_ok_scalarKind? hjson]
  unfold parseScalar
  split
  · rw [exists_ok_bind]
    refine exists_congr fun kind ↦ and_iff_left ?_
    cases kind <;> exact ⟨_, rfl⟩
  · rw [exists_ok_bind]
    refine exists_congr fun kind ↦ and_iff_left ?_
    split <;> exact ⟨_, rfl⟩

theorem exists_ok_parsePlain (hjson : (map es).isJson = true) :
    (∃ s, parsePlain es = .ok s) ↔ (declaredType es).isContainer = false := by
  unfold parsePlain
  split
  · next h =>
    rw [Bool.and_eq_true] at h
    rw [isText_iff.1 h.1]
    exact iff_of_true ⟨_, rfl⟩ rfl
  · exact exists_ok_parseScalar (isJson_declaredType hjson)

/-! ## One level -/

theorem branch_eq_reference_iff {pointer : Value} :
    branch es = .reference pointer ↔ lookup es "$ref" = some pointer := by
  unfold branch
  cases lookup es "$ref" with
  | some => simp
  | none =>
    simp only [reduceCtorEq, iff_false]
    split
    · simp
    · split
      · simp
      · split
        · simp
        · split <;> simp

/-- What counts as present is there. -/
theorem lookup_of_truthy {key : String} (h : (under es key).truthy = true) :
    lookup es key = some (under es key) := by
  unfold under at *
  cases hv : lookup es key with
  | none =>
    rw [hv] at h
    cases h
  | some v => rfl

theorem refused_iff_of_reference {pointer : Value} (h : branch es = .reference pointer) :
    Refused es ↔ ∀ s, pointer ≠ .text s := by
  have hlookup := branch_eq_reference_iff.1 h
  constructor
  · rintro (⟨hv, htext⟩ | ⟨hbranch, -⟩ | ⟨hbranch, -⟩ | ⟨hbranch, -⟩)
    · rw [hlookup] at hv
      cases hv
      exact htext
    all_goals
      rw [h] at hbranch
      cases hbranch
  · exact .pointer hlookup

theorem refused_iff_of_object (h : branch es = .object) :
    Refused es ↔ Unnameable (under es "required") ∨
      (under es "properties").truthy = true ∧ ∀ fs, under es "properties" ≠ .map fs := by
  constructor
  · rintro (⟨hv, -⟩ | ⟨-, hv, hnames⟩ | ⟨-, hv, htruthy, hmap⟩ | ⟨hbranch, -⟩)
    · rw [branch_eq_reference_iff.2 hv] at h
      cases h
    · unfold under
      rw [hv]
      exact .inl hnames
    · unfold under
      rw [hv]
      exact .inr ⟨htruthy, hmap⟩
    · rw [h] at hbranch
      cases hbranch
  · rintro (hnames | ⟨htruthy, hmap⟩)
    · exact .required h (lookup_of_truthy hnames.1) hnames
    · exact .properties h (lookup_of_truthy htruthy) htruthy hmap

theorem refused_iff_of_scalar (h : branch es = .scalar) :
    Refused es ↔ (declaredType es).isContainer = true := by
  constructor
  · rintro (⟨hv, -⟩ | ⟨hbranch, -⟩ | ⟨hbranch, -⟩ | ⟨-, htype⟩)
    · rw [branch_eq_reference_iff.2 hv] at h
      cases h
    · rw [h] at hbranch
      cases hbranch
    · rw [h] at hbranch
      cases hbranch
    · exact htype
  · exact .type h

/-- Compositions and arrays fail by their parts alone. -/
theorem not_refused (hreference : ∀ pointer, branch es ≠ .reference pointer)
    (hobject : branch es ≠ .object) (hscalar : branch es ≠ .scalar) : ¬Refused es := by
  rintro (⟨hv, -⟩ | ⟨hbranch, -⟩ | ⟨hbranch, -⟩ | ⟨hbranch, -⟩)
  · exact hreference _ (branch_eq_reference_iff.2 hv)
  · exact hobject hbranch
  · exact hobject hbranch
  · exact hscalar hbranch

/-- An object is read if and only if it is not refused by itself and its parts are read. -/
theorem exists_ok_parseEntries (hjson : (map es).isJson = true) :
    (∃ s, parseEntries p es = .ok s) ↔ ¬Refused es ∧ ∀ v ∈ parts es, ∃ s, p v = .ok s := by
  rw [parseEntries_eq, parts]
  cases hbranch : branch es with
  | reference pointer =>
    rw [refused_iff_of_reference hbranch, Branch.read, exists_ok_map, exists_ok_asText]
    simp [Branch.parts]
  | allOf members =>
    rw [and_iff_right (not_refused (by simp [hbranch]) (by simp [hbranch]) (by simp [hbranch]))]
    rw [Branch.read, exists_ok_map, exists_ok_mapM, Branch.parts]
  | oneOf members =>
    rw [and_iff_right (not_refused (by simp [hbranch]) (by simp [hbranch]) (by simp [hbranch]))]
    rw [Branch.read, exists_ok_map, exists_ok_mapM, Branch.parts]
  | object =>
    rw [refused_iff_of_object hbranch, not_or, and_assoc]
    exact exists_ok_parseObject hjson
  | array =>
    rw [and_iff_right (not_refused (by simp [hbranch]) (by simp [hbranch]) (by simp [hbranch]))]
    rw [Branch.read, exists_ok_map, Branch.parts, List.forall_mem_singleton]
  | scalar =>
    rw [refused_iff_of_scalar hbranch, Branch.read, exists_ok_parsePlain hjson]
    simp [Branch.parts]

/-! ## All levels -/

theorem visits_map_iff {fs : List (Value × Value)} :
    Visits (.map es) (.map fs) ↔ fs = es ∨ ∃ v ∈ parts es, Visits v (.map fs) := by
  constructor
  · intro h
    cases h with
    | here => exact .inl rfl
    | part hv h => exact .inr ⟨_, hv, h⟩
  · rintro (rfl | ⟨v, hv, h⟩)
    · exact .here _
    · exact .part hv h

theorem not_visits_of_asMap? {v : Value} (h : v.asMap? = none) (fs : List (Value × Value)) :
    ¬Visits v (.map fs) := by
  intro hvisits
  cases hvisits with
  | here => cases h
  | part => cases h

/-- A value is read if and only if its reading visits no object that is refused by itself. -/
theorem exists_ok_parse : ∀ v : Value, v.isJson = true →
    ((∃ s, parse v = .ok s) ↔ ∀ fs, Visits v (.map fs) → ¬Refused fs) := by
  refine induction_on_parts fun v hjson ih ↦ ?_
  cases hes : v.asMap? with
  | none =>
    exact iff_of_true ⟨_, parse_of_asMap? hes⟩ fun fs h ↦
      absurd h (not_visits_of_asMap? hes fs)
  | some es =>
    obtain rfl := eq_map_of_asMap? hjson hes
    rw [parse_map hjson, exists_ok_parseEntries hjson]
    constructor
    · rintro ⟨hself, hparts⟩ fs hvisits
      obtain rfl | ⟨w, hw, hvisits⟩ := visits_map_iff.1 hvisits
      · exact hself
      · exact (ih es rfl w hw).1 (hparts w hw) fs hvisits
    · intro h
      refine ⟨h es (.here _), fun w hw ↦ (ih es rfl w hw).2 fun fs hvisits ↦ ?_⟩
      exact h fs (.part hw hvisits)

theorem not_refused_nil : ¬Refused [] := by
  rw [refused_iff_of_scalar rfl]
  exact Bool.false_ne_true

/-- The reading of a value of the notation fails if and only if it visits an object, not an empty
one, that is refused by itself. In every other case it has a result. -/
theorem parse_fails_iff {v : Value} (hjson : v.isJson = true) :
    ((∃ fault, parse v = .error fault) ↔
      ∃ schema, schema ≠ [] ∧ Visits v (.map schema) ∧ Refused schema) ∧
    ((∃ s, parse v = .ok s) ↔
      ¬∃ schema, schema ≠ [] ∧ Visits v (.map schema) ∧ Refused schema) := by
  have hok : (∃ s, parse v = .ok s) ↔
      ¬∃ schema, schema ≠ [] ∧ Visits v (.map schema) ∧ Refused schema := by
    rw [exists_ok_parse v hjson]
    constructor
    · rintro h ⟨schema, -, hvisits, hrefused⟩
      exact h schema hvisits hrefused
    · intro h fs hvisits hrefused
      refine h ⟨fs, ?_, hvisits, hrefused⟩
      rintro rfl
      exact not_refused_nil hrefused
  exact ⟨by rw [exists_error_iff, hok, not_not], hok⟩

/-- A property with a pointer that is no text, inside a member of a composition. -/
theorem parse_fails_at_pointer :
    let schema : List (Value × Value) := [("allOf", .list [.map [("properties", .map
      [("owner", .map [("$ref", .int 1)])])]])]
    (Value.map schema).isJson = true ∧ ∃ fault, parse (.map schema) = .error fault := by
  refine ⟨rfl, (parse_fails_iff rfl).1.2 ⟨[("$ref", .int 1)], List.cons_ne_nil _ _, ?_, ?_⟩⟩
  · exact .part List.mem_cons_self (.part List.mem_cons_self (.here _))
  · exact .pointer rfl fun _ h ↦ nomatch h

end Schema

end ApiClient

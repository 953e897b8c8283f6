import ApiClient.Draft
import ApiClient.Proofs.Module.Run
import ApiClient.Proofs.Schema.Parsing
import ApiClient.Value.Literal

/-!
# What can be written out

A type can be written out when each of its choices has a literal and each of its fields is named by
a text. Reducing a type and putting the members of an intersection together keep this. The shape of
every schema in the interchange notation can be written out, provided that its integers have
numerals.
-/

namespace ApiClient

namespace Value

theorem writable_of_isWord {v : Value} (h : v.isWord = true) : v.writable = true := by
  cases v with
  | text s => rfl
  | _ => cases h

theorem allWritable_iff {vs : List Value} :
    allWritable vs = true ↔ ∀ v ∈ vs, v.writable = true := by
  induction vs with
  | nil => simp [allWritable]
  | cons v vs ih => simp [allWritable, ih]

theorem entriesWritable_iff {es : List (Value × Value)} :
    entriesWritable es = true ↔ ∀ e ∈ es, e.1.writable = true ∧ e.2.writable = true := by
  induction es with
  | nil => simp [entriesWritable]
  | cons e es ih =>
    obtain ⟨k, v⟩ := e
    rw [entriesWritable, Bool.and_eq_true, Bool.and_eq_true, ih, List.forall_mem_cons]

end Value

/-! ## Types -/

namespace TypeExpr

mutual

/-- Whether all choices of a type have literals and all fields are named by texts, at any depth. -/
def expressible : TypeExpr → Bool
  | anything | binary | scalar _ | named _ _ => true
  | literal choices => choices.all Value.writable
  | sequence element => expressible element
  | union members | intersection members => allExpressible members
  | record fields extra => fieldsExpressible fields && optionExpressible extra

def allExpressible : List TypeExpr → Bool
  | [] => true
  | e :: es => expressible e && allExpressible es

def fieldsExpressible : List (Field TypeExpr) → Bool
  | [] => true
  | ⟨name, _, e⟩ :: fs => name.isWord && expressible e && fieldsExpressible fs

def optionExpressible : Option TypeExpr → Bool
  | none => true
  | some e => expressible e

end

theorem allExpressible_append (es es' : List TypeExpr) :
    allExpressible (es ++ es') = (allExpressible es && allExpressible es') := by
  induction es with
  | nil => rw [List.nil_append, allExpressible, Bool.true_and]
  | cons e es ih => rw [List.cons_append, allExpressible, allExpressible, ih, Bool.and_assoc]

theorem fieldsExpressible_append (fs fs' : List (Field TypeExpr)) :
    fieldsExpressible (fs ++ fs') = (fieldsExpressible fs && fieldsExpressible fs') := by
  induction fs with
  | nil => rw [List.nil_append, fieldsExpressible, Bool.true_and]
  | cons f fs ih =>
    obtain ⟨name, required, e⟩ := f
    rw [List.cons_append, fieldsExpressible, fieldsExpressible, ih]
    simp only [Bool.and_assoc]

mutual

theorem expressible_collapse (e : TypeExpr) (h : e.expressible = true) :
    e.collapse.expressible = true := by
  match e with
  | intersection members =>
    rw [collapse]
    split
    · next reduced hsole =>
      rw [expressible] at h
      exact expressible_of_collapseSole members h hsole
    · exact h
  | anything | binary | scalar _ | literal _ | named _ _ | sequence _ | union _ | record _ _ =>
    simpa only [collapse] using h

theorem expressible_of_collapseSole (es : List TypeExpr) (h : allExpressible es = true)
    {reduced : TypeExpr} (hsole : collapseSole es = some reduced) : reduced.expressible = true := by
  match es with
  | [] =>
    obtain rfl : anything = reduced := by simpa [collapseSole] using hsole
    rw [expressible]
  | e :: es =>
    rw [allExpressible, Bool.and_eq_true] at h
    rw [collapseSole] at hsole
    split at hsole
    · exact expressible_of_collapseSole es h.2 hsole
    · split at hsole
      · rw [← Option.some.inj hsole]
        exact expressible_collapse e h.1
      · cases hsole

end

end TypeExpr

namespace Contribution

open TypeExpr

/-- Whether the fields and the further values can be written out. -/
def expressible (c : Contribution) : Bool :=
  fieldsExpressible c.fields && optionExpressible c.extra

theorem expressible_gather (pending : List TypeExpr) (c : Contribution)
    (hpending : allExpressible pending = true) (h : c.expressible = true) :
    (gather pending c).expressible = true := by
  fun_induction gather pending c with
  | case1 c => exact h
  | case2 c e pending identifier raw hshape ih =>
    rw [allExpressible, Bool.and_eq_true] at hpending
    exact ih hpending.2 h
  | case3 c e pending fields extra hshape ih =>
    rw [allExpressible, Bool.and_eq_true] at hpending
    have he := expressible_collapse e hpending.1
    rw [hshape, TypeExpr.expressible, Bool.and_eq_true] at he
    rw [expressible, Bool.and_eq_true] at h
    refine ih hpending.2 ?_
    rw [expressible, fieldsExpressible_append, h.1, he.1]
    cases extra with
    | none => exact h.2
    | some e => exact he.2
  | case4 c e pending members hshape ih =>
    rw [allExpressible, Bool.and_eq_true] at hpending
    have he := expressible_collapse e hpending.1
    rw [hshape, TypeExpr.expressible] at he
    exact ih (by rw [allExpressible_append, he, hpending.2]; rfl) h
  | case5 c e pending hnamed hrecord hintersection ih =>
    rw [allExpressible, Bool.and_eq_true] at hpending
    exact ih hpending.2 h

theorem expressible_ofMembers {members : List TypeExpr} (h : allExpressible members = true) :
    (ofMembers members).expressible = true :=
  expressible_gather members ⟨[], [], none⟩ h rfl

end Contribution

/-! ## Schemas -/

namespace Schema

mutual

/-- Whether all choices of a schema have literals and all properties are named by texts, at any
depth. -/
def expressible : Schema → Bool
  | reference _ | binary | anything => true
  | scalar _ choices => choices.all Value.writable
  | allOf members | oneOf members => allExpressible members
  | object properties additional => fieldsExpressible properties && optionExpressible additional
  | array element => expressible element

def allExpressible : List Schema → Bool
  | [] => true
  | s :: ss => expressible s && allExpressible ss

def fieldsExpressible : List (Field Schema) → Bool
  | [] => true
  | ⟨name, _, s⟩ :: fs => name.isWord && expressible s && fieldsExpressible fs

def optionExpressible : Option Schema → Bool
  | none => true
  | some s => expressible s

end

end Schema

namespace TypeExpr

variable (identify : String → String)

mutual

/-- The type of a schema can be written out just if the schema can. -/
theorem expressible_ofSchema (s : Schema) : (ofSchema identify s).expressible = s.expressible := by
  match s with
  | .reference _ | .binary | .anything => rw [ofSchema, expressible, Schema.expressible]
  | .scalar kind [] => rw [ofSchema, expressible, Schema.expressible, List.all_nil]
  | .scalar kind (v :: vs) =>
    rw [ofSchema, expressible, Schema.expressible]
    all_goals simp
  | .allOf members | .oneOf members =>
    rw [ofSchema, expressible, Schema.expressible, expressible_ofSchemas members]
  | .array element => rw [ofSchema, expressible, Schema.expressible, expressible_ofSchema element]
  | .object [] none =>
    rw [ofSchema, expressible, Schema.expressible, Schema.fieldsExpressible,
      Schema.optionExpressible, Bool.and_true]
  | .object [] (some s) =>
    rw [ofSchema, expressible, Schema.expressible, expressible_ofFields [],
      expressible_ofOption (some s)]
    all_goals simp
  | .object (p :: ps) additional =>
    rw [ofSchema, expressible, Schema.expressible, expressible_ofFields (p :: ps),
      expressible_ofOption additional]
    all_goals simp

theorem expressible_ofSchemas (ss : List Schema) :
    allExpressible (ofSchemas identify ss) = Schema.allExpressible ss := by
  match ss with
  | [] => rw [ofSchemas, allExpressible, Schema.allExpressible]
  | s :: ss =>
    rw [ofSchemas, allExpressible, Schema.allExpressible, expressible_ofSchema s,
      expressible_ofSchemas ss]

theorem expressible_ofFields (fs : List (Field Schema)) :
    fieldsExpressible (ofFields identify fs) = Schema.fieldsExpressible fs := by
  match fs with
  | [] => rw [ofFields, fieldsExpressible, Schema.fieldsExpressible]
  | ⟨name, required, s⟩ :: fs =>
    rw [ofFields, fieldsExpressible, Schema.fieldsExpressible, expressible_ofSchema s,
      expressible_ofFields fs]

theorem expressible_ofOption (s : Option Schema) :
    optionExpressible (ofOption identify s) = Schema.optionExpressible s := by
  match s with
  | none => rw [ofOption, optionExpressible, Schema.optionExpressible]
  | some s => rw [ofOption, optionExpressible, Schema.optionExpressible, expressible_ofSchema s]

end

end TypeExpr

/-! ## Shapes of schemas in the interchange notation -/

namespace Schema

open Value

variable {es : List (Value × Value)}

/-- What lies inside a map whose integers have numerals has numerals for its integers. -/
theorem Lies.writable (hwritable : (map es).writable = true) {v : Value} (h : Lies es v) :
    v.writable = true := by
  induction h with
  | absent => rfl
  | entry he => exact (entriesWritable_iff.1 hwritable _ he).2
  | item _ hv ih => exact allWritable_iff.1 ih _ hv
  | value _ he ih => exact (entriesWritable_iff.1 ih _ he).2

/-- Whatever the parts of an object have for shapes, these can be written out. -/
def PartsExpressible (vs : List Value) : Prop :=
  ∀ v ∈ vs, ∀ s, parse v = .ok s → s.expressible = true

theorem allExpressible_of_mapM {vs : List Value} (hparts : PartsExpressible vs) {ss : List Schema}
    (h : vs.mapM parse = .ok ss) : allExpressible ss = true := by
  induction vs generalizing ss with
  | nil =>
    obtain rfl : [] = ss := Except.ok.inj h
    rfl
  | cons v vs ih =>
    obtain ⟨hfirst, hrest⟩ := List.forall_mem_cons.1 hparts
    rw [List.mapM_cons] at h
    obtain ⟨s, hs, h⟩ := Module.of_bind_eq_ok h
    obtain ⟨rest, hshapes, h⟩ := Module.of_bind_eq_ok h
    rw [← Except.ok.inj h, allExpressible, hfirst s hs, ih hrest hshapes]
    rfl

/-! ### One level -/

theorem fieldsExpressible_of_parseProperties {required : List Value} {fs : List (Value × Value)}
    (hnames : ∀ e ∈ fs, e.1.isWord = true) (hparts : PartsExpressible (fs.map (·.2)))
    {fields : List (Field Schema)} (h : parseProperties parse required fs = .ok fields) :
    fieldsExpressible fields = true := by
  induction fs generalizing fields with
  | nil =>
    obtain rfl : [] = fields := Except.ok.inj h
    rfl
  | cons e fs ih =>
    obtain ⟨hname, hnames⟩ := List.forall_mem_cons.1 hnames
    obtain ⟨hfirst, hrest⟩ := List.forall_mem_cons.1 hparts
    rw [parseProperties] at h
    obtain ⟨s, hs, h⟩ := Module.of_bind_eq_ok h
    obtain ⟨rest, hfields, h⟩ := Module.of_bind_eq_ok h
    rw [← Except.ok.inj h, fieldsExpressible, hname, hfirst s hs, ih hnames hrest hfields]
    rfl

theorem optionExpressible_of_parseAdditional {es : List (Value × Value)}
    (hparts : PartsExpressible (additionalValues es)) {additional : Option Schema}
    (h : parseAdditional parse (under es "additionalProperties") = .ok additional) :
    optionExpressible additional = true := by
  unfold parseAdditional at h
  unfold additionalValues at hparts
  split at h
  · rw [← Except.ok.inj h]
    rfl
  · split at h
    · next hmap =>
      rw [if_pos hmap] at hparts
      obtain ⟨s, hs, rfl⟩ := Module.exists_of_map_eq_ok h
      exact hparts _ List.mem_cons_self s hs
    · rw [← Except.ok.inj h]
      rfl

/-- The properties of an object of the notation are named by texts. -/
theorem isWord_of_mem_properties (hjson : (map es).isJson = true) {fs : List (Value × Value)}
    (h : (under es "properties").orEmptyMap.entries = .ok fs) {e : Value × Value} (he : e ∈ fs) :
    e.1.isWord = true := by
  have hproperties := isJson_under hjson "properties"
  cases hmap : (under es "properties").asMap? with
  | none =>
    rw [← asMap?_of_entries_orEmptyMap h, hmap] at he
    cases he
  | some gs =>
    rw [← asMap?_of_entries_orEmptyMap h, hmap] at he
    rw [eq_map_of_asMap? hproperties hmap] at hproperties
    obtain ⟨name, v, rfl, -⟩ := exists_of_mem_map hproperties he
    rfl

theorem expressible_of_parseObject (hjson : (map es).isJson = true)
    (hparts : PartsExpressible (propertyValues es ++ additionalValues es)) {s : Schema}
    (h : parseObject parse es = .ok s) : s.expressible = true := by
  obtain ⟨hvalues, hfurther⟩ := List.forall_mem_append.1 hparts
  unfold parseObject at h
  obtain ⟨required, -, h⟩ := Module.of_bind_eq_ok h
  obtain ⟨fs, hfs, h⟩ := Module.of_bind_eq_ok h
  change (under es "properties").orEmptyMap.entries = .ok fs at hfs
  obtain ⟨fields, hfields, h⟩ := Module.of_bind_eq_ok h
  obtain ⟨additional, hadditional, h⟩ := Module.of_bind_eq_ok h
  rw [propertyValues, asMap?_of_entries_orEmptyMap hfs] at hvalues
  rw [← Except.ok.inj h, expressible, optionExpressible_of_parseAdditional hfurther hadditional,
    fieldsExpressible_of_parseProperties (fun e ↦ isWord_of_mem_properties hjson hfs) hvalues
      hfields]
  rfl

theorem expressible_of_parseScalar (hjson : (map es).isJson = true)
    (hwritable : (map es).writable = true) {type : Value} {s : Schema}
    (h : parseScalar es type = .ok s) : s.expressible = true := by
  unfold parseScalar at h
  cases hmembers : listUnder? es "enum" with
  | none =>
    rw [hmembers] at h
    obtain ⟨kind, -, h⟩ := Module.of_bind_eq_ok h
    cases kind <;> exact Except.ok.inj h ▸ rfl
  | some members =>
    rw [hmembers] at h
    obtain ⟨kind, -, h⟩ := Module.of_bind_eq_ok h
    split at h
    · rw [← Except.ok.inj h, expressible, List.all_eq_true]
      intro v hv
      exact (Lies.of_listUnder? hjson hmembers (List.mem_filter.1 hv).1).writable hwritable
    · exact Except.ok.inj h ▸ rfl

/-- The shape of a branch can be written out if the shapes of its parts can. -/
theorem Branch.expressible_of_read (hjson : (map es).isJson = true)
    (hwritable : (map es).writable = true) (b : Branch) (hparts : PartsExpressible (b.parts es))
    {s : Schema} (h : b.read parse es = .ok s) : s.expressible = true := by
  cases b with
  | reference pointer =>
    obtain ⟨text, -, h⟩ := Module.exists_of_map_eq_ok h
    exact h ▸ rfl
  | allOf members | oneOf members =>
    obtain ⟨ss, hss, h⟩ := Module.exists_of_map_eq_ok h
    rw [← h, expressible]
    exact allExpressible_of_mapM hparts hss
  | object => exact expressible_of_parseObject hjson hparts h
  | array =>
    obtain ⟨element, helement, h⟩ := Module.exists_of_map_eq_ok h
    rw [← h, expressible]
    exact hparts _ List.mem_cons_self element helement
  | scalar =>
    rw [Branch.read, parsePlain] at h
    split at h
    · exact Except.ok.inj h ▸ rfl
    · exact expressible_of_parseScalar hjson hwritable h

/-- The shape of a schema of the notation can be written out, provided that its integers have
numerals. -/
theorem expressible_of_parse {v : Value} (hjson : v.isJson = true) (hwritable : v.writable = true)
    {s : Schema} (h : parse v = .ok s) : s.expressible = true := by
  revert hwritable s
  refine induction_on_parts
    (motive := fun v ↦ v.writable = true → ∀ {s}, parse v = .ok s → s.expressible = true)
    (fun v hjson ih ↦ ?_) v hjson
  intro hwritable s h
  cases hes : v.asMap? with
  | none =>
    rw [parse_of_asMap? hes] at h
    exact Except.ok.inj h ▸ rfl
  | some es =>
    obtain rfl := eq_map_of_asMap? hjson hes
    rw [parse_map hjson, parseEntries_eq] at h
    refine (branch es).expressible_of_read hjson hwritable (fun w hw s hs ↦ ?_) h
    exact ih es rfl w hw ((lies_of_mem_parts hjson hw).writable hwritable) hs

end Schema

end ApiClient

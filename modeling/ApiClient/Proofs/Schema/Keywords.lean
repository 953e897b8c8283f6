import ApiClient.Proofs.Description.Rewording
import ApiClient.Proofs.Schema.Parsing
import Mathlib.Logic.Relation

/-!
# What the shape of a schema does not depend on

Only eleven keys of a schema object decide its shape. Entries under other keys may be added,
removed or changed and the entries may be put in another order, in a schema object and in every
schema inside it, and the reading still ends in the same shape or the same fault. A property has
its name from a key too, but of the map of properties, where no key is a keyword and the order
counts.
-/

namespace ApiClient.Schema

open Value

/-- The keys that decide the shape of a schema object. -/
def keywords : List String :=
  ["$ref", "allOf", "oneOf", "anyOf", "type", "properties", "additionalProperties", "required",
    "items", "format", "enum"]

def isKeyword (e : Value × Value) : Bool := keywords.any e.1.isText

/-- The keys of a single schema. -/
def schemaKeys : List String := ["items", "additionalProperties"]

/-- The keys of a list of schemas. -/
def memberKeys : List String := ["allOf", "oneOf", "anyOf"]

/-- One change to a schema object, in its own entries or in a schema inside it. -/
inductive Edit : Value → Value → Prop where
  /-- The entries under keywords are the same up to their order, and the others are arbitrary. -/
  | entries {es fs : List (Value × Value)} :
      (es.filter isKeyword).Perm (fs.filter isKeyword) → Edit (.map es) (.map fs)
  | schema {key : String} {v w : Value} (before after : List (Value × Value)) :
      key ∈ schemaKeys → Edit v w →
      Edit (.map (before ++ (.text key, v) :: after)) (.map (before ++ (.text key, w) :: after))
  | member {key : String} {v w : Value} (before after : List (Value × Value))
      (left right : List Value) : key ∈ memberKeys → Edit v w →
      Edit (.map (before ++ (.text key, .list (left ++ v :: right)) :: after))
        (.map (before ++ (.text key, .list (left ++ w :: right)) :: after))
  | property {name v w : Value} (before after left right : List (Value × Value)) : Edit v w →
      Edit (.map (before ++ (.text "properties", .map (left ++ (name, v) :: right)) :: after))
        (.map (before ++ (.text "properties", .map (left ++ (name, w) :: right)) :: after))

/-- The second value comes from the first by changes, and each of them leaves a value of the
notation. -/
def Edited : Value → Value → Prop :=
  Relation.ReflTransGen fun v w ↦ w.isJson = true ∧ Edit v w

namespace Edit

variable {es fs : List (Value × Value)} {e : Value × Value}

theorem reorder (h : es.Perm fs) : Edit (.map es) (.map fs) := entries (h.filter isKeyword)

theorem filter_isKeyword (before after : List (Value × Value)) (h : isKeyword e = false) :
    (before ++ e :: after).filter isKeyword = (before ++ after).filter isKeyword := by
  rw [List.filter_append, List.filter_append, List.filter_cons_of_neg (by simp [h])]

/-- An entry under another key is added. -/
theorem insert (before after : List (Value × Value)) (h : isKeyword e = false) :
    Edit (.map (before ++ after)) (.map (before ++ e :: after)) :=
  entries (.of_eq (filter_isKeyword before after h).symm)

/-- An entry under another key is removed. -/
theorem erase (before after : List (Value × Value)) (h : isKeyword e = false) :
    Edit (.map (before ++ e :: after)) (.map (before ++ after)) :=
  entries (.of_eq (filter_isKeyword before after h))

end Edit

/-! ## Values under one key -/

/-- Two values under a key differ in nothing but the schemas that they hold, and these have the
same shapes. -/
inductive Alike (key : String) : Value → Value → Prop where
  | refl (v : Value) : Alike key v v
  | schema {es fs : List (Value × Value)} : key ∈ schemaKeys →
      parse (.map es) = parse (.map fs) → Alike key (.map es) (.map fs)
  | members {vs ws : List Value} : key ∈ memberKeys → vs.map parse = ws.map parse →
      Alike key (.list vs) (.list ws)
  | properties {es fs : List (Value × Value)} : key = "properties" →
      es.map (fun e ↦ (e.1, parse e.2)) = fs.map (fun e ↦ (e.1, parse e.2)) →
      Alike key (.map es) (.map fs)

variable {es fs : List (Value × Value)} {key : String}

theorem Alike.eq {v w : Value} (h : Alike key v w)
    (hkey : key ∉ schemaKeys ++ memberKeys ++ ["properties"]) : v = w := by
  simp only [List.mem_append, List.mem_singleton, not_or] at hkey
  cases h with
  | refl => rfl
  | schema hschema => exact absurd hschema hkey.1.1
  | members hmember => exact absurd hmember hkey.1.2
  | properties hproperties => exact absurd hproperties hkey.2

theorem rel_alike_refl (key : String) (x : Option Value) : Option.Rel (Alike key) x x := by
  cases x with
  | none => exact .none
  | some v => exact .some (.refl v)

/-- A map in which one value is replaced by one alike has values alike under every key. -/
theorem rel_lookup_replace {k : String} {v w : Value} (h : Alike k v w)
    (before after : List (Value × Value)) (key : String) :
    Option.Rel (Alike key) (lookup (before ++ (.text k, v) :: after) key)
      (lookup (before ++ (.text k, w) :: after) key) := by
  induction before with
  | nil =>
    rw [List.nil_append, List.nil_append, lookup_cons_text, lookup_cons_text]
    split
    · next hkey =>
      subst hkey
      exact .some h
    · exact rel_alike_refl key _
  | cons e before ih =>
    rw [List.cons_append, List.cons_append, lookup_cons, lookup_cons]
    split
    · exact rel_alike_refl key _
    · exact ih

/-! ## One level -/

/-- Under every keyword two schema objects have values alike, or none. -/
def AlikeEntries (es fs : List (Value × Value)) : Prop :=
  ∀ key ∈ keywords, Option.Rel (Alike key) (lookup es key) (lookup fs key)

namespace AlikeEntries

theorem lookup_eq (h : AlikeEntries es fs) (key : String) (hkey : key ∈ keywords)
    (hplain : key ∉ schemaKeys ++ memberKeys ++ ["properties"]) :
    lookup es key = lookup fs key := by
  obtain ⟨hv, hw⟩ | ⟨v, w, hv, hw, halike⟩ := cases_of_rel (h key hkey)
  · rw [hv, hw]
  · rw [hv, hw, halike.eq hplain]

theorem alike_under (h : AlikeEntries es fs) (key : String) (hkey : key ∈ keywords) :
    Alike key (under es key) (under fs key) := by
  unfold under
  obtain ⟨hv, hw⟩ | ⟨v, w, hv, hw, halike⟩ := cases_of_rel (h key hkey)
  · rw [hv, hw]
    exact .refl _
  · rw [hv, hw]
    exact halike

theorem has_eq (h : AlikeEntries es fs) (key : String) (hkey : key ∈ keywords) :
    has es key = has fs key := by
  unfold has
  obtain ⟨hv, hw⟩ | ⟨v, w, hv, hw, -⟩ := cases_of_rel (h key hkey)
  · rw [hv, hw]
  · rw [hv, hw]
    rfl

theorem rel_listUnder? (h : AlikeEntries es fs) (key : String) (hkey : key ∈ keywords) :
    Option.Rel (fun vs ws ↦ vs.map parse = ws.map parse) (listUnder? es key)
      (listUnder? fs key) := by
  unfold listUnder?
  obtain ⟨hv, hw⟩ | ⟨v, w, hv, hw, halike⟩ := cases_of_rel (h key hkey)
  · rw [hv, hw]
    exact .none
  · rw [hv, hw]
    cases halike with
    | refl =>
      rw [Option.bind_some]
      cases v.asList? with
      | none => exact .none
      | some vs => exact .some rfl
    | members _ hshapes => exact .some hshapes
    | schema | properties => exact .none

theorem declaredType_eq (h : AlikeEntries es fs) : declaredType es = declaredType fs := by
  unfold declaredType
  rw [h.lookup_eq "type" (by decide) (by decide)]

theorem parsePlain_eq (h : AlikeEntries es fs) : parsePlain es = parsePlain fs := by
  unfold parsePlain parseScalar listUnder? under
  rw [h.declaredType_eq, h.lookup_eq "format" (by decide) (by decide),
    h.lookup_eq "enum" (by decide) (by decide)]

theorem requiredNames_eq (h : AlikeEntries es fs) : requiredNames es = requiredNames fs := by
  unfold requiredNames
  rw [h.lookup_eq "required" (by decide) (by decide)]

theorem parse_items_eq (h : AlikeEntries es fs) :
    parse (under es "items") = parse (under fs "items") := by
  have hitems := h.alike_under "items" (by decide)
  generalize under es "items" = v at *
  generalize under fs "items" = w at *
  cases hitems with
  | refl => rfl
  | schema _ hshape => exact hshape
  | members hmember => exact absurd hmember (by decide)
  | properties hproperties => exact absurd hproperties (by decide)

theorem parseAdditional_eq (h : AlikeEntries es fs) :
    parseAdditional parse (under es "additionalProperties") =
      parseAdditional parse (under fs "additionalProperties") := by
  have hadditional := h.alike_under "additionalProperties" (by decide)
  generalize under es "additionalProperties" = v at *
  generalize under fs "additionalProperties" = w at *
  cases hadditional with
  | refl => rfl
  | schema _ hshape => exact congrArg (Except.map some) hshape
  | members hmember => exact absurd hmember (by decide)
  | properties hproperties => exact absurd hproperties (by decide)

end AlikeEntries

/-- The fields of an object depend on the names and the shapes of the properties alone. -/
theorem parseProperties_eq_of_map (required : List Value)
    (h : es.map (fun e ↦ (e.1, parse e.2)) = fs.map (fun e ↦ (e.1, parse e.2))) :
    parseProperties parse required es = parseProperties parse required fs := by
  induction es generalizing fs with
  | nil =>
    obtain rfl : fs = [] := List.map_eq_nil_iff.1 h.symm
    rfl
  | cons e es ih =>
    cases fs with
    | nil => cases h
    | cons f fs =>
      obtain ⟨hfirst, hrest⟩ := List.cons_eq_cons.1 h
      obtain ⟨name, v⟩ := e
      obtain ⟨name', w⟩ := f
      obtain ⟨rfl, hshape⟩ := Prod.mk.inj hfirst
      rw [parseProperties, parseProperties, hshape, ih hrest]

/-- The properties have the same names and shapes, or they are a fault in both objects. -/
theorem AlikeEntries.properties (h : AlikeEntries es fs) :
    (under es "properties").orEmptyMap.entries = (under fs "properties").orEmptyMap.entries ∨
      ∃ ps qs, (under es "properties").orEmptyMap.entries = .ok ps ∧
        (under fs "properties").orEmptyMap.entries = .ok qs ∧
        ps.map (fun e ↦ (e.1, parse e.2)) = qs.map (fun e ↦ (e.1, parse e.2)) := by
  have hproperties := h.alike_under "properties" (by decide)
  generalize under es "properties" = v at *
  generalize under fs "properties" = w at *
  cases hproperties with
  | refl => exact .inl rfl
  | schema hschema => exact absurd hschema (by decide)
  | members hmember => exact absurd hmember (by decide)
  | @properties ps qs _ hshapes =>
    exact .inr ⟨ps, qs, by cases ps <;> rfl, by cases qs <;> rfl, hshapes⟩

theorem AlikeEntries.parseObject_eq (h : AlikeEntries es fs) :
    parseObject parse es = parseObject parse fs := by
  have hadditional := h.parseAdditional_eq
  have hproperties := h.properties
  unfold under at hadditional hproperties
  unfold parseObject
  rw [h.requiredNames_eq]
  obtain heq | ⟨ps, qs, hps, hqs, hshapes⟩ := hproperties
  · rw [heq, hadditional]
  · rw [hps, hqs, hadditional]
    refine congrArg (requiredNames fs >>= ·) (funext fun required ↦ ?_)
    change (parseProperties parse required ps >>= fun fields ↦ _) =
      parseProperties parse required qs >>= fun fields ↦ _
    rw [parseProperties_eq_of_map required hshapes]

theorem mapM_eq_of_map {vs ws : List Value} (h : vs.map parse = ws.map parse) :
    vs.mapM parse = ws.mapM parse := by
  have hid (us : List Value) : us.mapM parse = (us.map parse).mapM id := by
    rw [List.mapM_map]
    rfl
  rw [hid, hid, h]

/-- Schema objects with values alike have the same shape or the same fault. -/
theorem AlikeEntries.parseEntries_eq (h : AlikeEntries es fs) :
    parseEntries parse es = parseEntries parse fs := by
  rw [Schema.parseEntries_eq, Schema.parseEntries_eq]
  unfold branch
  rw [h.lookup_eq "$ref" (by decide) (by decide), h.declaredType_eq,
    h.has_eq "properties" (by decide), h.has_eq "additionalProperties" (by decide)]
  cases lookup fs "$ref" with
  | some pointer => rfl
  | none =>
    simp only []
    obtain ⟨hv, hw⟩ | ⟨vs, ws, hv, hw, hshapes⟩ :=
      cases_of_rel (h.rel_listUnder? "allOf" (by decide))
    · rw [hv, hw]
      simp only []
      obtain ⟨hv, hw⟩ | ⟨vs, ws, hv, hw, hshapes⟩ := cases_of_rel
        (rel_or (h.rel_listUnder? "oneOf" (by decide)) (h.rel_listUnder? "anyOf" (by decide)))
      · rw [hv, hw]
        simp only []
        split
        · exact h.parseObject_eq
        · split
          · exact congrArg (Except.map Schema.array) h.parse_items_eq
          · exact h.parsePlain_eq
      · rw [hv, hw]
        exact congrArg (Except.map Schema.oneOf) (mapM_eq_of_map hshapes)
    · rw [hv, hw]
      exact congrArg (Except.map Schema.allOf) (mapM_eq_of_map hshapes)

/-! ## Edits -/

theorem Edit.exists_map {v w : Value} (h : Edit v w) : ∃ es fs, v = .map es ∧ w = .map fs := by
  cases h <;> exact ⟨_, _, rfl, rfl⟩

/-- In maps of the notation the entries under a keyword decide what is found under it. -/
theorem lookup_eq_of_perm (hes : (map es).isJson = true) (hfs : (map fs).isJson = true)
    (h : (es.filter isKeyword).Perm (fs.filter isKeyword)) (hkey : key ∈ keywords) :
    lookup es key = lookup fs key := by
  have hmem (gs : List (Value × Value)) (v : Value) :
      (text key, v) ∈ gs ↔ (text key, v) ∈ gs.filter isKeyword := by
    have hkeyword : isKeyword (text key, v) = true := by
      simpa [isKeyword, isText] using hkey
    rw [List.mem_filter, and_iff_left hkeyword]
  ext v
  rw [lookup_eq_some_iff hes, lookup_eq_some_iff hfs, hmem es, hmem fs, h.mem_iff]

/-- A value may be replaced by one alike. -/
theorem parse_eq_of_replace {k : String} {v w : Value} (h : Alike k v w)
    {before after : List (Value × Value)}
    (hv : (map (before ++ (text k, v) :: after)).isJson = true)
    (hw : (map (before ++ (text k, w) :: after)).isJson = true) :
    parse (map (before ++ (text k, w) :: after)) =
      parse (map (before ++ (text k, v) :: after)) := by
  rw [parse_map hv, parse_map hw]
  have hentries : AlikeEntries (before ++ (text k, v) :: after) (before ++ (text k, w) :: after) :=
    fun key _ ↦ rel_lookup_replace h before after key
  exact hentries.parseEntries_eq.symm

theorem isJson_of_append {before after : List (Value × Value)} {e : Value × Value}
    (h : (map (before ++ e :: after)).isJson = true) : e.2.isJson = true :=
  isJson_of_mem_map h (List.mem_append_right before List.mem_cons_self)

theorem map_eq_of_middle {α β : Type} {f : α → β} {a b : α} (left right : List α)
    (h : f b = f a) : (left ++ a :: right).map f = (left ++ b :: right).map f := by
  rw [List.map_append, List.map_append, List.map_cons, List.map_cons, h]

/-- One change leaves the shape or the fault of a schema as it is. -/
theorem parse_eq_of_edit {v w : Value} (h : Edit v w) (hv : v.isJson = true)
    (hw : w.isJson = true) : parse w = parse v := by
  induction h with
  | entries hperm =>
    rw [parse_map hv, parse_map hw]
    refine AlikeEntries.parseEntries_eq fun key hkey ↦ ?_
    rw [lookup_eq_of_perm hw hv hperm.symm hkey]
    exact rel_alike_refl key _
  | schema before after hkey hedit ih =>
    have hshape := ih (isJson_of_append hv) (isJson_of_append hw)
    obtain ⟨es, fs, rfl, rfl⟩ := hedit.exists_map
    exact parse_eq_of_replace (.schema hkey hshape.symm) hv hw
  | member before after left right hkey hedit ih =>
    have hmem {u : Value} : u ∈ left ++ u :: right := List.mem_append_right left List.mem_cons_self
    have hshape := ih (isJson_of_mem_list (isJson_of_append hv) hmem)
      (isJson_of_mem_list (isJson_of_append hw) hmem)
    exact parse_eq_of_replace (.members hkey (map_eq_of_middle left right hshape)) hv hw
  | @property name v w before after left right hedit ih =>
    have hshape := ih (isJson_of_append (isJson_of_append hv))
      (isJson_of_append (isJson_of_append hw))
    have hshapes : (left ++ (name, v) :: right).map (fun e ↦ (e.1, parse e.2)) =
        (left ++ (name, w) :: right).map (fun e ↦ (e.1, parse e.2)) :=
      map_eq_of_middle left right (congrArg (Prod.mk name) hshape)
    exact parse_eq_of_replace (.properties rfl hshapes) hv hw

/-- Whatever is edited under other keys than the keywords, and however the entries of schema
objects are put in order, the reading ends in the same shape or in the same fault. -/
theorem parse_eq_of_edited {v w : Value} (hjson : v.isJson = true) (h : Edited v w) :
    parse w = parse v := by
  have hboth : w.isJson = true ∧ parse w = parse v := by
    induction h with
    | refl => exact ⟨hjson, rfl⟩
    | tail _ hstep ih => exact ⟨hstep.1, (parse_eq_of_edit hstep.2 ih.1 hstep.1).trans ih.2⟩
  exact hboth.2

/-- The description of the object is removed, but not the property that is called like one; this
property has a title added to it, and the type comes last. -/
theorem parse_eq_of_retitled :
    let before : Value := .map [("description", "a pet"), ("type", "object"),
      ("properties", .map [("description", .map [("type", "string")])])]
    let after : Value := .map [("properties", .map [("description", .map [("type", "string"),
      ("title", "Text")])]), ("type", "object")]
    before.isJson = true ∧ Edited before after ∧ parse after = parse before := by
  intro before after
  have herase : Edit before (.map [("type", "object"),
      ("properties", .map [("description", .map [("type", "string")])])]) :=
    .erase [] _ rfl
  have hinsert : Edit (.map [("type", "object"),
      ("properties", .map [("description", .map [("type", "string")])])])
      (.map [("type", "object"), ("properties", .map [("description", .map [("type", "string"),
        ("title", "Text")])])]) :=
    .property [("type", "object")] [] [] [] (.insert [("type", "string")] [] rfl)
  have hreorder : Edit (.map [("type", "object"), ("properties", .map [("description",
      .map [("type", "string"), ("title", "Text")])])]) after :=
    .reorder (.swap _ _ _)
  have hedited : Edited before after :=
    ((Relation.ReflTransGen.single ⟨rfl, herase⟩).tail ⟨rfl, hinsert⟩).tail ⟨rfl, hreorder⟩
  exact ⟨rfl, hedited, parse_eq_of_edited rfl hedited⟩

end ApiClient.Schema

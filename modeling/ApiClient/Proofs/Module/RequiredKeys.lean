import ApiClient.Proofs.Module.DeclaredComponents
import ApiClient.Proofs.Value.Equality

/-!
# Required keys of a composition

The class of a composition has one field for each name among the properties of the object schemas in
it, however they are nested. The fields of all of them are put one after the other, and one that is
put takes the place of an earlier one of its name. So it is the last of the properties of a name
that says whether the class requires it, and an earlier one that is required does not count.
-/

namespace ApiClient

open Work Draft Drafting

/-! ## Keys of one name -/

section

variable {key : Value} (hkey : key.hashable = true) {new : Value × Bool}
include hkey

/-- Replacing the keys of one name does not change which keys have a name. -/
theorem filter_replace (keys : List (Value × Bool)) :
    (keys.map fun k ↦ if k.1.same new.1 then new else k).filter (key.same ·.1) =
      (keys.filter (key.same ·.1)).map fun k ↦ if k.1.same new.1 then new else k := by
  have hnames : ∀ k : Value × Bool,
      key.same (if k.1.same new.1 then new else k).1 = key.same k.1 := by
    intro k
    split
    · next hsame => exact (Value.same_right_congr hkey hsame).symm
    · rfl
  simp only [List.filter_map, Function.comp_def, hnames]

/-- A key that is put leaves those of other names. -/
theorem filter_putKey_of_other (h : key.same new.1 = false) (keys : List (Value × Bool)) :
    (putKey keys new).filter (key.same ·.1) = keys.filter (key.same ·.1) := by
  unfold putKey
  split
  · rw [filter_replace hkey]
    refine (List.map_congr_left fun k hk ↦ if_neg fun hsame ↦ ?_).trans (List.map_id' _)
    rw [List.mem_filter, Value.same_right_congr hkey hsame, h] at hk
    exact Bool.false_ne_true hk.2
  · rw [List.filter_append, List.filter_singleton, h, cond_false, List.append_nil]

/-- A key that is put takes the place of the one of its name. -/
theorem filter_putKey_of_same (h : key.same new.1 = true) {keys : List (Value × Bool)}
    (hkeys : (keys.filter (key.same ·.1)).length ≤ 1) :
    (putKey keys new).filter (key.same ·.1) = [new] := by
  have hsame : ∀ k : Value × Bool, key.same k.1 = true ↔ k.1.same new.1 = true := by
    intro k
    refine ⟨fun hk ↦ ?_, fun hk ↦ (Value.same_right_congr hkey hk).trans h⟩
    rw [Value.same_comm hkey] at hk
    exact Value.same_trans hk h
  unfold putKey
  split
  · next hany =>
    obtain ⟨k, hk, hkeyed⟩ := List.any_eq_true.1 hany
    have hmem : k ∈ keys.filter (key.same ·.1) := List.mem_filter.2 ⟨hk, (hsame k).2 hkeyed⟩
    obtain ⟨k', hone⟩ := List.length_eq_one_iff.1
      (Nat.le_antisymm hkeys (List.length_pos_of_mem hmem))
    obtain rfl : k = k' := by rwa [hone, List.mem_singleton] at hmem
    rw [filter_replace hkey, hone, List.map_singleton, if_pos hkeyed]
  · next hnone =>
    have hempty : keys.filter (key.same ·.1) = [] := by
      rw [List.filter_eq_nil_iff]
      exact fun k hk hkeyed ↦ hnone (List.any_eq_true.2 ⟨k, hk, (hsame k).1 hkeyed⟩)
    rw [List.filter_append, hempty, List.nil_append, List.filter_singleton, h, cond_true]

end

/-- Of the keys of one name the last is kept. -/
theorem filter_keysOf {α : Type} {key : Value} (hkey : key.hashable = true)
    (fields : List (Field α)) :
    (keysOf fields).filter (key.same ·.1) =
      ((fields.map Field.key).filter (key.same ·.1)).getLast?.toList := by
  unfold keysOf
  induction fields.map Field.key using List.reverseRecOn with
  | nil => rfl
  | append_singleton keys k ih =>
    rw [List.foldl_append, List.foldl_cons, List.foldl_nil, List.filter_append,
      List.filter_singleton]
    cases hsame : key.same k.1 with
    | true =>
      have hone : ((keys.foldl putKey []).filter (key.same ·.1)).length ≤ 1 := by
        rw [ih, Option.length_toList]
        split <;> omega
      rw [filter_putKey_of_same hkey hsame hone, cond_true, List.getLast?_concat]
      rfl
    | false => rw [filter_putKey_of_other hkey hsame, ih, cond_false, List.append_nil]

/-! ## Properties of a composition -/

namespace Schema

mutual

/-- The properties of the object schemas that a schema is composed of, in order. -/
def inlineProperties : Schema → List (Field Schema)
  | object properties _ => properties
  | allOf members => inlinePropertiesOfAll members
  | _ => []

def inlinePropertiesOfAll : List Schema → List (Field Schema)
  | [] => []
  | s :: ss => inlineProperties s ++ inlinePropertiesOfAll ss

end

/-- The inline properties of one name. -/
def propertiesAt (s : Schema) (key : Value) : List (Field Schema) :=
  s.inlineProperties.filter (key.same ·.name)

theorem required_of_parseProperties {parsePart : Value → Except Fault Schema}
    {required : List Value} {entries : List (Value × Value)} {properties : List (Field Schema)}
    (h : parseProperties parsePart required entries = .ok properties) :
    ∀ p ∈ properties, p.required = p.name.isIn required := by
  induction entries generalizing properties with
  | nil =>
    obtain rfl := Except.ok.inj h
    exact fun p hp ↦ absurd hp List.not_mem_nil
  | cons entry entries ih =>
    obtain ⟨name, v⟩ := entry
    rw [parseProperties] at h
    obtain ⟨type, -, h⟩ := Module.of_bind_eq_ok h
    obtain ⟨rest, hrest, h⟩ := Module.of_bind_eq_ok h
    obtain rfl := Except.ok.inj h
    exact List.forall_mem_cons.2 ⟨rfl, ih hrest⟩

/-- A property is required if its object schema lists the name as one that is. -/
theorem required_of_parseObject {parsePart : Value → Except Fault Schema}
    {schema : List (Value × Value)} {s : Schema} (h : parseObject parsePart schema = .ok s) :
    ∃ required, requiredNames schema = .ok required ∧
      ∀ p ∈ s.inlineProperties, p.required = p.name.isIn required := by
  unfold parseObject at h
  obtain ⟨required, hrequired, h⟩ := Module.of_bind_eq_ok h
  obtain ⟨entries, -, h⟩ := Module.of_bind_eq_ok h
  obtain ⟨properties, hproperties, h⟩ := Module.of_bind_eq_ok h
  obtain ⟨additional, -, h⟩ := Module.of_bind_eq_ok h
  obtain rfl := Except.ok.inj h
  refine ⟨required, hrequired, ?_⟩
  rw [inlineProperties]
  exact required_of_parseProperties hproperties

mutual

/-- The fields that a schema's type is composed of have the keys of the inline properties. -/
theorem map_key_fields_ofSchema (identify : String → String) (s : Schema) :
    (TypeExpr.ofSchema identify s).fields.map Field.key = s.inlineProperties.map Field.key := by
  match s with
  | allOf members =>
    rw [TypeExpr.ofSchema, TypeExpr.fields, TypeExpr.leaves, inlineProperties]
    exact map_key_leavesOfAll_ofSchemas identify members
  | object properties additional =>
    rw [inlineProperties, ← map_key_ofFields identify, TypeExpr.fields]
    cases properties <;> cases additional <;>
      simp [TypeExpr.ofSchema, TypeExpr.leaves, TypeExpr.ownFields, TypeExpr.ofFields]
  | scalar _ [] | scalar _ (_ :: _) | reference _ | oneOf _ | binary | array _ | anything =>
    simp [TypeExpr.ofSchema, TypeExpr.fields, TypeExpr.leaves, TypeExpr.ownFields, inlineProperties]

theorem map_key_leavesOfAll_ofSchemas (identify : String → String) (ss : List Schema) :
    ((TypeExpr.leavesOfAll (TypeExpr.ofSchemas identify ss)).flatMap TypeExpr.ownFields).map
      Field.key = (inlinePropertiesOfAll ss).map Field.key := by
  match ss with
  | [] => rfl
  | s :: ss =>
    rw [TypeExpr.ofSchemas, TypeExpr.leavesOfAll, List.flatMap_append, List.map_append,
      map_key_leavesOfAll_ofSchemas identify ss, inlinePropertiesOfAll, List.map_append,
      ← map_key_fields_ofSchema identify s]
    rfl

end

end Schema

/-! ## The class of a component -/

variable {components : Components}

namespace Drafting

theorem sameDeclarations_componentType (raw : String) (s : Schema) :
    Respects SameDeclarations (componentType components raw s) := by
  unfold componentType
  apply (sameDeclarations_follow _).bind
  intro _
  have htype : Respects SameDeclarations (typeOf s) := fun _ ↦ rfl
  exact htype.bind fun _ ↦ Respects.pure _

theorem sameDeclarations_hasClass (e : TypeExpr) :
    Respects SameDeclarations (hasClass components e) := by
  unfold hasClass
  split
  · exact sameDeclarations_follow _
  · exact Respects.pure _

/-- Where a component is declared as a class, its rendering leaves the class under its name. -/
theorem exists_rendering_of_declareComponent {raw name : String} {s : Schema} {d d' : Draft}
    {c : RecordClass}
    (h : exec (declareComponent components raw s name) d = (.ok (.record c), d')) :
    ∃ r : Rendering, ∃ identify, r.raw = raw ∧
      r.type = (TypeExpr.ofSchema identify s).collapse ∧ Progress components d r.draft ∧
      SameDeclarations d r.draft ∧ r.after components = d' ∧
      d'.declarations.find? name = some (.record c) := by
  unfold declareComponent at h
  obtain ⟨e, d₁, htype, h⟩ := of_exec_bind h
  obtain ⟨isClass, d₂, hclass, h⟩ := of_exec_bind h
  obtain ⟨hint, d₃, hrender, h⟩ := of_exec_bind h
  obtain ⟨identify, base, he, -⟩ := exists_type_of_componentType htype
  have hprogress : Progress components d d₂ := IsTrans.trans _ _ _
    ((progress_componentType raw s).of_exec htype) ((progress_hasClass e).of_exec hclass)
  have hsame : SameDeclarations d d₂ := IsTrans.trans _ _ _
    ((sameDeclarations_componentType raw s).of_exec htype)
    ((sameDeclarations_hasClass e).of_exec hclass)
  have hafter : Rendering.after components ⟨d₂, e, raw⟩ = d₃ := congrArg Prod.snd hrender
  cases isClass with
  | false => cases h
  | true =>
    rw [if_pos rfl, exec_get_bind] at h
    cases hfound : d₃.declarations.find? name with
    | none =>
      rw [hfound] at h
      cases h
    | some x =>
      rw [hfound] at h
      obtain ⟨rfl, rfl⟩ := exec_pure_eq_ok.1 h
      exact ⟨⟨d₂, e, raw⟩, identify, rfl, he, hprogress, hsame, hafter, hfound⟩

/-- A class that is declared for a component where nothing stood is declared by the rendering of
the component. -/
theorem exists_declares_of_declareSchema {raw : String} {s : Schema} {d d' : Draft}
    {c : RecordClass} (hsound : d.Sound)
    (hfresh : d.declarations.find? (d.registry.resolve raw).1 = none)
    (h : exec (declareSchema components raw s) d = (.ok (.record c), d')) :
    ∃ r : Rendering, ∃ identify, r.type = (TypeExpr.ofSchema identify s).collapse ∧
      r.draft.Sound ∧ r.Declares components c := by
  unfold declareSchema at h
  rw [exec_bind_of_ok (exec_identify raw d), exec_catch] at h
  have hidentified : Draft.Growth components Rendering.All d (d.identified raw) :=
    Rendering.growth_identified hsound raw
  have hcomponent : exec (declareComponent components raw s (d.registry.resolve raw).1)
      (d.identified raw) = (.ok (.record c), d') := by
    unfold Draft.identified
    rcases hexec : exec (declareComponent components raw s (d.registry.resolve raw).1)
      { d with registry := (d.registry.resolve raw).2 } with ⟨fault | x, d₁⟩
    · -- What is declared for a fault that is caught is an alias.
      rw [hexec] at h
      cases fault <;> cases h
    · rwa [hexec] at h
  obtain ⟨r, identify, rfl, htype, hprogress, hsame, rfl, hfound⟩ :=
    exists_rendering_of_declareComponent hcomponent
  have hgrown := hprogress.1 hidentified.sound
  have hname : c.name = (d.registry.resolve r.raw).1 := Declarations.name_of_find? hfound
  have hrendered : Draft.Growth components Rendering.All r.draft (r.after components) :=
    Rendering.grows_render r.type r.raw r.draft hgrown.sound
  refine ⟨r, identify, htype, hgrown.sound, ?_, ?_, ?_⟩
  · rw [hsame, hname]
    exact hfresh
  · rw [hname]
    exact hfound
  · rw [hname]
    exact (hgrown.trans hrendered).registry.assigned (Rendering.identifier?_identified d r.raw)

end Drafting

/-! ## Required keys -/

/-- The class has a required field of some name. -/
def RecordClass.Requires (c : RecordClass) (key : Value) : Prop :=
  ∃ f ∈ c.fields, key.same f.name = true ∧ f.required = true

namespace Drafting

/-- The fields of one name in the class of a component have the key of the last inline property of
the name. -/
theorem keys_of_declareSchema {raw : String} {s : Schema} {d d' : Draft}
    {c : RecordClass} (hsound : d.Sound)
    (hfresh : d.declarations.find? (d.registry.resolve raw).1 = none)
    (h : exec (declareSchema components raw s) d = (.ok (.record c), d'))
    {key : Value} (hkey : key.hashable = true) :
    (c.fields.filter (key.same ·.name)).map Field.key =
      ((s.propertiesAt key).getLast?.map Field.key).toList := by
  obtain ⟨r, identify, htype, hdraft, hdeclares⟩ :=
    exists_declares_of_declareSchema hsound hfresh h
  obtain ⟨d₁, fields, bases, extra, hopens⟩ := hdeclares.exists_opens hdraft
  have hfields : fields.map Field.key = s.inlineProperties.map Field.key := by
    rw [hopens.fields_eq, htype, ← Schema.map_key_fields_ofSchema identify s]
    simp only [TypeExpr.fields, TypeExpr.leaves_collapse]
  calc (c.fields.filter (key.same ·.name)).map Field.key
    _ = (c.fields.map Field.key).filter (key.same ·.1) := by
      rw [List.filter_map]
      rfl
    _ = (keysOf fields).filter (key.same ·.1) := by rw [(hopens.of_declares hdraft hdeclares).1]
    _ = ((s.inlineProperties.map Field.key).filter (key.same ·.1)).getLast?.toList := by
      rw [filter_keysOf hkey, hfields]
    _ = ((s.propertiesAt key).getLast?.map Field.key).toList := by
      rw [List.filter_map, List.getLast?_map]
      rfl

section

variable {raw : String} {s : Schema} {d d' : Draft} {c : RecordClass} {key : Value}
  {last : Field Schema}

/-- A name among the inline properties is that of one field, as the last of them has it. -/
theorem exists_field_of_getLast? (hsound : d.Sound)
    (hfresh : d.declarations.find? (d.registry.resolve raw).1 = none)
    (h : exec (declareSchema components raw s) d = (.ok (.record c), d'))
    (hkey : key.hashable = true) (hlast : (s.propertiesAt key).getLast? = some last) :
    ∃ f, c.fields.filter (key.same ·.name) = [f] ∧ f.required = last.required := by
  have hkeys := keys_of_declareSchema hsound hfresh h hkey
  rw [hlast, Option.map_some, Option.toList_some, List.map_eq_singleton_iff] at hkeys
  obtain ⟨f, hf, hfkey⟩ := hkeys
  exact ⟨f, hf, congrArg Prod.snd hfkey⟩

theorem requires_iff_of_getLast? (hsound : d.Sound)
    (hfresh : d.declarations.find? (d.registry.resolve raw).1 = none)
    (h : exec (declareSchema components raw s) d = (.ok (.record c), d'))
    (hkey : key.hashable = true) (hlast : (s.propertiesAt key).getLast? = some last) :
    c.Requires key ↔ last.required = true := by
  obtain ⟨f, hf, hrequired⟩ := exists_field_of_getLast? hsound hfresh h hkey hlast
  rw [← hrequired]
  constructor
  · rintro ⟨g, hg, hsame, hflag⟩
    have hmem : g ∈ c.fields.filter (key.same ·.name) := List.mem_filter.2 ⟨hg, hsame⟩
    rw [hf, List.mem_singleton] at hmem
    rwa [← hmem]
  · intro hflag
    have hmem : f ∈ c.fields.filter (key.same ·.name) := hf ▸ List.mem_singleton_self f
    obtain ⟨hfield, hsame⟩ := List.mem_filter.1 hmem
    exact ⟨f, hfield, hsame, hflag⟩

end

/-- The class of a composition has one field for a name among the inline properties. It requires the
name just if the last inline property of the name does. So it requires what some of them require
just if the last one is among these or there are none. -/
theorem requires_iff_last {raw : String} {members : List Schema} {d d' : Draft} {c : RecordClass}
    (hsound : d.Sound) (hfresh : d.declarations.find? (d.registry.resolve raw).1 = none)
    (h : exec (declareSchema components raw (.allOf members)) d = (.ok (.record c), d'))
    {key : Value} (hkey : key.hashable = true) {last : Field Schema}
    (hlast : ((Schema.allOf members).propertiesAt key).getLast? = some last) :
    (∃ f, c.fields.filter (key.same ·.name) = [f] ∧ f.required = last.required) ∧
      ((c.Requires key ↔ ∃ p ∈ (Schema.allOf members).propertiesAt key, p.required = true) ↔
        last.required = true ∨
          ∀ p ∈ (Schema.allOf members).propertiesAt key, p.required = false) := by
  refine ⟨exists_field_of_getLast? hsound hfresh h hkey hlast, ?_⟩
  rw [requires_iff_of_getLast? hsound hfresh h hkey hlast]
  have hmem : last ∈ (Schema.allOf members).propertiesAt key := List.mem_of_getLast? hlast
  constructor
  · intro hiff
    by_cases hflag : last.required = true
    · exact .inl hflag
    · refine .inr fun p hp ↦ ?_
      rw [← Bool.not_eq_true]
      exact fun hp' ↦ hflag (hiff.2 ⟨p, hp, hp'⟩)
  · rintro (hflag | hnone)
    · exact iff_of_true hflag ⟨last, hmem, hflag⟩
    · have hflag : last.required = false := hnone last hmem
      refine iff_of_false (by rw [hflag]; exact Bool.false_ne_true) ?_
      rintro ⟨p, hp, hflag⟩
      rw [hnone p hp] at hflag
      cases hflag

/-- An object schema with text properties, of which some are required. -/
def textObject (properties : List (String × Bool)) : Schema :=
  .object (properties.map fun p ↦ ⟨.text p.1, p.2, .scalar .string []⟩) none

/-- What declaring a single component gives. -/
def declaredAlone (raw : String) (s : Schema) : Except Fault Declaration × Draft :=
  exec (declareSchema [(raw, s)] raw s) (.forComponents [(raw, s)])

def isRecordClass : Declaration → Bool
  | .synonym _ _ => false
  | .record _ => true

theorem exists_class_of_declaredAlone {raw : String} {s : Schema}
    (h : (declaredAlone raw s).1.toOption.map isRecordClass = some true) :
    ∃ c d', declaredAlone raw s = (.ok (.record c), d') := by
  obtain ⟨x, d', hexec, hclass⟩ := exists_exec_of_map h
  cases x with
  | synonym name hint => cases hclass
  | record c => exact ⟨c, d', hexec⟩

/-- An inner member makes a name optional that an outer one requires, and requires another one. -/
def nestedMembers : List Schema :=
  [textObject [("a", true), ("b", false)],
    .allOf [textObject [("b", true), ("a", false)], .anything]]

theorem requires_nestedMembers :
    ∃ c d', declaredAlone "Pet" (.allOf nestedMembers) = (.ok (.record c), d') ∧
      (∃ f, c.fields.filter ((Value.text "b").same ·.name) = [f] ∧ f.required = true) ∧
      ∃ f, c.fields.filter ((Value.text "a").same ·.name) = [f] ∧ f.required = false := by
  have hclass : (declaredAlone "Pet" (.allOf nestedMembers)).1.toOption.map isRecordClass =
      some true := by decide +kernel
  obtain ⟨c, d', hexec⟩ := exists_class_of_declaredAlone hclass
  have hsound := sound_forComponents [("Pet", Schema.allOf nestedMembers)]
  have hb : ((Schema.allOf nestedMembers).propertiesAt (.text "b")).getLast? =
      some ⟨.text "b", true, .scalar .string []⟩ := by
    simp [nestedMembers, textObject, Schema.propertiesAt, Schema.inlineProperties,
      Schema.inlinePropertiesOfAll, Value.same]
  have ha : ((Schema.allOf nestedMembers).propertiesAt (.text "a")).getLast? =
      some ⟨.text "a", false, .scalar .string []⟩ := by
    simp [nestedMembers, textObject, Schema.propertiesAt, Schema.inlineProperties,
      Schema.inlinePropertiesOfAll, Value.same]
  exact ⟨c, d', hexec, (requires_iff_last hsound rfl hexec rfl hb).1,
    (requires_iff_last hsound rfl hexec rfl ha).1⟩

/-- Two members with one name, the first of which may require it, and the second of which may. -/
def twoMembers (first second : Bool) : Schema :=
  .allOf [textObject [("a", first)], textObject [("a", second)]]

theorem propertiesAt_twoMembers (first second : Bool) :
    (twoMembers first second).propertiesAt (.text "a") =
      [⟨.text "a", first, .scalar .string []⟩, ⟨.text "a", second, .scalar .string []⟩] := by
  simp [twoMembers, textObject, Schema.propertiesAt, Schema.inlineProperties,
    Schema.inlinePropertiesOfAll, Value.same]

/-- A member that comes later can make a name optional that another one requires. In the other
order the class requires it. -/
theorem not_requires_laterOptional :
    (∃ c d', declaredAlone "Pet" (twoMembers true false) = (.ok (.record c), d') ∧
      ¬ (c.Requires (.text "a") ↔
        ∃ p ∈ (twoMembers true false).propertiesAt (.text "a"), p.required = true)) ∧
      ∃ c d', declaredAlone "Pet" (twoMembers false true) = (.ok (.record c), d') ∧
        c.Requires (.text "a") := by
  constructor
  · have hclass : (declaredAlone "Pet" (twoMembers true false)).1.toOption.map isRecordClass =
        some true := by decide +kernel
    obtain ⟨c, d', hexec⟩ := exists_class_of_declaredAlone hclass
    refine ⟨c, d', hexec, ?_⟩
    have hlast := congrArg List.getLast? (propertiesAt_twoMembers true false)
    rw [requires_iff_of_getLast? (sound_forComponents _) rfl hexec rfl hlast,
      propertiesAt_twoMembers]
    simp
  · have hclass : (declaredAlone "Pet" (twoMembers false true)).1.toOption.map isRecordClass =
        some true := by decide +kernel
    obtain ⟨c, d', hexec⟩ := exists_class_of_declaredAlone hclass
    have hlast := congrArg List.getLast? (propertiesAt_twoMembers false true)
    exact ⟨c, d', hexec,
      (requires_iff_of_getLast? (sound_forComponents _) rfl hexec rfl hlast).2 rfl⟩

end Drafting

end ApiClient

import ApiClient.Proofs.Description.Pointers
import ApiClient.Proofs.Module.ComponentModels
import ApiClient.Proofs.Schema.Parsing
import Mathlib.Data.List.DropRight

/-!
# References to components

A component is pointed to by a pointer whose last key is its name. A schema reads the name that it
refers to from the end of its pointer, and as it is written there: escapes are not undone, and
slashes at the end are not counted. So the two agree on a name that is written as it is. Any other
component is found by its pointer too, while a schema with this pointer refers to another name, and
its type is named for another declaration.
-/

namespace ApiClient

open Text Value

namespace Description

/-- The pointer to a component. -/
def schemaPointer (name : String) : String := pointerTo ["components", "schemas", name]

/-- A schema object that refers to a component. -/
def referringTo (name : String) : Value := .map [("$ref", .text (schemaPointer name))]

/-- The name that a schema reads from the pointer to a component. -/
def nameInPointer (name : String) : String :=
  if name = "" then "schemas" else String.ofList (escapeKey name.toList)

/-- A name that stands in a pointer as it is. -/
def Verbatim (name : String) : Prop := name ≠ "" ∧ '~' ∉ name.toList ∧ '/' ∉ name.toList

/-! ## The name in a pointer -/

theorem exists_join_concat (separator last : List Char) (parts : List (List Char)) :
    ∃ front, join separator (parts ++ [last]) = front ++ last := by
  unfold join
  induction parts with
  | nil => exact ⟨[], by simp⟩
  | cons part parts ih =>
    obtain ⟨front, hfront⟩ := ih
    rw [List.cons_append, List.intercalate_cons_of_ne_nil (by simp), hfront]
    exact ⟨part ++ separator ++ front, (List.append_assoc ..).symm⟩

/-- What a schema reads from a pointer is the last key as it is written there. -/
theorem referenceName_pointerTo (keys : List String) {name : String} (hne : name ≠ "") :
    Schema.referenceName (pointerTo (keys ++ [name])) =
      String.ofList (escapeKey name.toList) := by
  let last := escapeKey name.toList
  -- the hash is the part before the first slash
  let before := ['#'] :: keys.map fun key ↦ escapeKey key.toList
  have hparts : (pointerTo (keys ++ [name])).toList = join ['/'] (before ++ [last]) := by
    unfold before join
    rw [List.cons_append, List.intercalate_cons_of_ne_nil (by simp), pointerTo,
      String.toList_ofList, List.map_append]
    rfl
  have htrim : trimEndWhile (· = '/') (join ['/'] (before ++ [last])) =
      join ['/'] (before ++ [last]) := by
    obtain ⟨front, hfront⟩ := exists_join_concat ['/'] last before
    have hlast : last ≠ [] := escapeKey_ne_nil fun h ↦ hne (String.toList_eq_nil_iff.1 h)
    rw [hfront]
    refine List.rdropWhile_eq_self_iff.2 fun _ hslash ↦ ?_
    rw [List.getLast_append_of_ne_nil _ hlast, decide_eq_true_iff] at hslash
    exact slash_not_mem_escapeKey name.toList (hslash ▸ List.getLast_mem hlast)
  have hsplit : (join ['/'] (before ++ [last])).splitOn '/' = before ++ [last] := by
    refine List.splitOn_intercalate '/' ?_ (by simp)
    simp only [before, List.mem_append, List.mem_cons, List.mem_map, List.not_mem_nil, or_false]
    rintro part ((rfl | ⟨key, -, rfl⟩) | rfl)
    · decide
    · exact slash_not_mem_escapeKey key.toList
    · exact slash_not_mem_escapeKey name.toList
  change String.ofList (((trimEndWhile (· = '/') (pointerTo (keys ++ [name])).toList).splitOn
    '/').getLastD []) = _
  rw [hparts, htrim, hsplit, List.getLastD_concat]

theorem referenceName_schemaPointer (name : String) :
    Schema.referenceName (schemaPointer name) = nameInPointer name := by
  unfold nameInPointer
  split
  · next hempty =>
    subst hempty
    decide
  · next hne => exact referenceName_pointerTo ["components", "schemas"] hne

theorem parse_referringTo (name : String) :
    Schema.parse (referringTo name) = .ok (.reference (nameInPointer name)) := by
  rw [← referenceName_schemaPointer]
  rfl

theorem nameInPointer_eq_self_iff (name : String) : nameInPointer name = name ↔ Verbatim name := by
  unfold nameInPointer Verbatim
  split
  · next hempty =>
    subst hempty
    decide
  · next hne =>
    rw [← escapeKey_eq_self_iff, ← String.toList_inj, String.toList_ofList]
    exact ⟨fun h ↦ ⟨hne, h⟩, And.right⟩

theorem parse_referringTo_eq_iff (name : String) :
    Schema.parse (referringTo name) = .ok (.reference name) ↔ Verbatim name := by
  rw [parse_referringTo, ← nameInPointer_eq_self_iff, Except.ok.injEq, Schema.reference.injEq]

/-! ## The component that a pointer denotes -/

variable {description named v : Value} {entries : List (Value × Value)} {name : String}

/-- What may be absent is present where an entry is found in it. -/
theorem asMap?_of_lookup_orEmptyMap (hentries : v.orEmptyMap.entries = .ok entries) {w : Value}
    (hw : lookup entries name = some w) : v.asMap? = some entries := by
  have hv := Schema.asMap?_of_entries_orEmptyMap hentries
  cases hmap : v.asMap? with
  | some es => rw [← hv, hmap, Option.getD_some]
  | none =>
    rw [hmap, Option.getD_none] at hv
    subst hv
    cases hw

/-- A field that is an object is an entry. -/
theorem lookup_of_field {w : Value} {es : List (Value × Value)} {key : String}
    (hfield : v.field key = .ok w) (hw : w.asMap? = some es) :
    ∃ entries, v.entries = .ok entries ∧ lookup entries key = some w := by
  obtain ⟨found, hfound, rfl⟩ := Module.exists_of_map_eq_ok hfield
  obtain ⟨entries, hentries, rfl⟩ := Module.exists_of_map_eq_ok hfound
  refine ⟨entries, hentries, ?_⟩
  cases hlookup : lookup entries key with
  | some x => rfl
  | none =>
    rw [hlookup] at hw
    cases hw

/-- Where there are component schemas, the keys before their names lead to them. -/
theorem leads_of_schemas (hschemas : schemas description = .ok named)
    (hentries : named.entries = .ok entries) (hv : lookup entries name = some v) :
    Leads description ["components", "schemas", name] v := by
  obtain ⟨parts, hparts, hschemas⟩ := Module.of_bind_eq_ok hschemas
  obtain ⟨below, hbelow, hnamed⟩ := Module.of_bind_eq_ok hschemas
  cases hnamed
  have hmap := asMap?_of_lookup_orEmptyMap hentries hv
  obtain ⟨es, hes, hlookup⟩ := lookup_of_field hbelow hmap
  have hmap' := asMap?_of_lookup_orEmptyMap hes hlookup
  obtain ⟨fs, hfs, hlookup'⟩ := lookup_of_field hparts hmap'
  exact .under (asMap?_of_entries hfs) hlookup' (.under hmap' hlookup (.under hmap hv (.here v)))

/-- The pointer to a component denotes the schema under its name. -/
theorem resolve_schemaPointer (hschemas : schemas description = .ok named)
    (hentries : named.entries = .ok entries) (hv : lookup entries name = some v) :
    resolve description (.text (schemaPointer name)) = .ok v := by
  rw [schemaPointer, resolve_text, pointerKeys_pointerTo (by decide) (by decide), foldlM_eq_iff]
  exact leads_of_schemas hschemas hentries hv

/-- The component of a name is the shape of the schema under it. -/
theorem exists_lookup_of_components {components : Components}
    (h : List.Forall₂ Module.ReadsAs entries components)
    (hv : lookup entries name = some v) :
    ∃ s, Schema.parse v = .ok s ∧ List.lookup name components = some s := by
  induction h with
  | nil => cases hv
  | @cons e c entries components hfirst _ ih =>
    obtain ⟨key, w⟩ := e
    obtain ⟨raw, s⟩ := c
    obtain ⟨rfl, hparse⟩ := hfirst
    rw [lookup_cons_text] at hv
    rw [List.lookup_cons]
    by_cases hsame : raw = name
    · subst hsame
      rw [if_pos rfl] at hv
      cases hv
      exact ⟨s, hparse, by rw [beq_self_eq_true]⟩
    · rw [if_neg hsame] at hv
      rw [beq_eq_false_iff_ne.2 (Ne.symm hsame)]
      exact ih hv

/-- In a run the schemas are the components, each with its shape. -/
theorem exists_component {options : Options} {content : Module.Content}
    (run : Module.Run description options content) (hschemas : schemas description = .ok named)
    (hentries : named.entries = .ok entries) (hv : lookup entries name = some v) :
    ∃ s, Schema.parse v = .ok s ∧ run.components.lookup name = some s := by
  obtain ⟨named', entries', hnamed, hread, hcomponents⟩ :=
    Module.exists_entries_of_components run.components_eq
  obtain rfl := Except.ok.inj (hschemas.symm.trans hnamed)
  obtain rfl := Except.ok.inj (hentries.symm.trans hread)
  exact exists_lookup_of_components hcomponents hv

end Description

/-- The type of a reference is named by the identifier of a raw name just if it refers to this
name. -/
theorem Name.Registry.Sound.typeOf_reference_iff {r : Name.Registry} (hsound : r.Sound)
    {raw identifier : String} (hraw : r.identifier? raw = some identifier) (target : String) :
    (r.typeOf (.reference target)).1 = .named identifier target ↔ target = raw := by
  have htarget := r.identifier?_resolve_self target
  have htype : (r.typeOf (.reference target)).1 = .named (r.resolve target).1 target := by
    change TypeExpr.named ((r.resolve target).2.resolve target).1 target = _
    rw [resolve_of_assigned htarget]
  rw [htype, TypeExpr.named.injEq, and_iff_left rfl]
  constructor
  · rintro rfl
    exact (hsound.resolve target).injective htarget ((extends_resolve r target).assigned hraw)
  · rintro rfl
    rw [resolve_of_assigned hraw]

namespace Module

open Description

/-- The pointer to a component denotes its schema, whatever its name is. A schema with that pointer
refers to the component, and its type is named for the declaration of the component, just if the
name stands in the pointer as it is. -/
theorem reference_agrees_iff {description named v : Value} {entries : List (Value × Value)}
    {name : String} (hschemas : schemas description = .ok named)
    (hentries : named.entries = .ok entries) (hv : lookup entries name = some v) :
    resolve description (.text (schemaPointer name)) = .ok v ∧
    Schema.parse (referringTo name) = .ok (.reference (nameInPointer name)) ∧
    (Schema.parse (referringTo name) = .ok (.reference name) ↔ Verbatim name) ∧
    ∀ {options content} (run : Run description options content),
      ∃ s identifier x, Schema.parse v = .ok s ∧ run.components.lookup name = some s ∧
        Declarations.find? content.declarations identifier = some x ∧
        ∀ r : Name.Registry, r.Sound →
          (Name.Registry.forModule.resolveAll (run.components.map (·.1))).Extends r →
          r.identifier? name = some identifier ∧
          ((r.typeOf (.reference (nameInPointer name))).1 =
            .named identifier (nameInPointer name) ↔ Verbatim name) := by
  refine ⟨resolve_schemaPointer hschemas hentries hv, parse_referringTo name,
    parse_referringTo_eq_iff name, fun run ↦ ?_⟩
  obtain ⟨s, hparse, hlookup⟩ := exists_component run hschemas hentries hv
  obtain ⟨identifier, x, hidentifier, -, hx⟩ :=
    run.exists_model (List.mem_map_of_mem (Components.mem_of_lookup hlookup))
  refine ⟨s, identifier, x, hparse, hlookup, hx, fun r hsound hextends ↦ ?_⟩
  have hraw := hextends.assigned hidentifier
  exact ⟨hraw, (hsound.typeOf_reference_iff hraw _).trans (nameInPointer_eq_self_iff name)⟩

/-- A component whose name has a slash, one that is named as the first is written in a pointer, and
one without such marks. -/
def slashedSchemas : List (Value × Value) :=
  [("a/b", objectOf "x"), ("a~1b", objectOf "y"), ("Pet", objectOf "z")]

/-- The schema of a plain name is referred to, and that of a name with a slash is not. -/
theorem reference_agrees_slashed :
    ∃ content, ∃ run : Run (describing slashedSchemas) {} content,
      content.kinds = [("AB", [], true), ("A1b", [], true), ("Pet", [], true)] ∧
      resolve (describing slashedSchemas) (.text (schemaPointer "Pet")) = .ok (objectOf "z") ∧
      Schema.parse (referringTo "Pet") = .ok (.reference "Pet") ∧
      resolve (describing slashedSchemas) (.text (schemaPointer "a/b")) = .ok (objectOf "x") ∧
      Schema.parse (referringTo "a/b") ≠ .ok (.reference "a/b") ∧
      ∃ s identifier x, run.components.lookup "a/b" = some s ∧
        Declarations.find? content.declarations identifier = some x ∧
        ((Name.Registry.forModule.resolveAll (run.components.map (·.1))).typeOf
          (.reference "a~1b")).1 ≠ .named identifier "a~1b" := by
  have hkinds : (build (describing slashedSchemas) {}).toOption.map (·.kinds) =
      some [("AB", [], true), ("A1b", [], true), ("Pet", [], true)] := by decide +kernel
  obtain ⟨content, hbuild, hcontent⟩ := exists_of_toOption_map hkinds
  obtain ⟨run⟩ := exists_run hbuild
  have hpet : Verbatim "Pet" := ⟨by decide, by decide, by decide⟩
  have hslash : ¬ Verbatim "a/b" := fun h ↦ h.2.2 (by decide)
  have hwritten : nameInPointer "a/b" = "a~1b" := by decide
  have hschemas : schemas (describing slashedSchemas) = .ok (.map slashedSchemas) := rfl
  have hz : lookup slashedSchemas "Pet" = some (objectOf "z") := rfl
  have hx : lookup slashedSchemas "a/b" = some (objectOf "x") := rfl
  obtain ⟨hresolve, -, hparse, -⟩ := reference_agrees_iff hschemas rfl hz
  obtain ⟨hresolve', -, hparse', hcomponents⟩ := reference_agrees_iff hschemas rfl hx
  obtain ⟨s, identifier, x, -, hs, hdeclared, hnamed⟩ := hcomponents run
  have htype := (hnamed _ ((Name.Registry.sound_new _ _).resolveAll _) (.refl _)).2
  rw [hwritten] at htype
  exact ⟨content, run, hcontent, hresolve, hparse.2 hpet, hresolve', fun h ↦ hslash (hparse'.1 h),
    s, identifier, x, hs, hdeclared, fun h ↦ hslash (htype.1 h)⟩

/-- The pointer to one component is read as a reference to another one. -/
theorem reference_disagrees_slashed :
    schemaPointer "a/b" = "#/components/schemas/a~1b" ∧
    resolve (describing slashedSchemas) (.text (schemaPointer "a/b")) = .ok (objectOf "x") ∧
    Schema.parse (referringTo "a/b") = .ok (.reference "a~1b") ∧
    resolve (describing slashedSchemas) (.text (schemaPointer "a~1b")) = .ok (objectOf "y") := by
  refine ⟨by decide, ?_, parse_referringTo "a/b", ?_⟩
  · exact resolve_schemaPointer rfl rfl rfl
  · exact resolve_schemaPointer rfl rfl rfl

end Module

end ApiClient

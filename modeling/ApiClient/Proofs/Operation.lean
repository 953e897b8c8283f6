import ApiClient.Operation
import ApiClient.Proofs.Diagnostic
import ApiClient.Proofs.Work.Sides
import Mathlib.Data.List.Forall2

/-!
# Operations that are read

A path and a method with an object in the path item are a slot. Reading the paths of a description
yields one operation for each slot, in order, and makes remarks of which none is an error.
-/

namespace ApiClient

open Work

namespace Operation

/-! ## Remarks -/

/-- How reading is compared on two sides. It adds remarks of which none is an error, and does not
look at the remarks that were made before. -/
def remarks : Sides (List Diagnostic) where
  reaches := Diagnostic.Appends Diagnostic.Minor
  preorder := inferInstance
  within _ := True
  within_of_reaches _ h := h
  beside _ _ := True

theorem mirrors_remark {x : Diagnostic} (h : x.Minor) : remarks.Mirrors (remark x) :=
  .modify (fun _ ↦ .single h) fun _ _ ↦ trivial

theorem mirrors_parseParameter (description raw location : Value) :
    remarks.Mirrors (parseParameter description raw location) := by
  unfold parseParameter
  apply (Sides.Mirrors.lift _).bind
  intro v
  apply (Sides.Mirrors.lift _).bind
  intro name
  split
  · exact (mirrors_remark (Diagnostic.minor_warning _ _)).bind fun _ ↦ .pure _
  · apply (Sides.Mirrors.lift _).bind
    intro place
    apply (Sides.Mirrors.lift _).bind
    intro word
    split
    · apply (Sides.Mirrors.lift _).bind
      intro plain
      apply (Sides.Mirrors.lift _).bind
      intro literal
      exact (mirrors_remark (Diagnostic.minor_warning _ _)).bind fun _ ↦ .pure _
    · exact (Sides.Mirrors.lift _).bind fun _ ↦ (Sides.Mirrors.lift _).bind fun _ ↦
        (Sides.Mirrors.lift _).bind fun _ ↦ (Sides.Mirrors.lift _).bind fun _ ↦
          (Sides.Mirrors.lift _).bind fun _ ↦ .pure _

theorem mirrors_parseParameterList (description location : Value) (raws : List Value) :
    remarks.Mirrors (parseParameterList description location raws) := by
  induction raws with
  | nil => exact .pure _
  | cons raw raws ih =>
    apply (mirrors_parseParameter description raw location).bind
    intro p
    cases p with
    | none => exact ih
    | some p => exact ih.bind fun _ ↦ .pure _

theorem mirrors_parseParameters (description raws location : Value) :
    remarks.Mirrors (parseParameters description raws location) :=
  (Sides.Mirrors.lift _).bind fun _ ↦ mirrors_parseParameterList description location _

theorem mirrors_parseTag (location : Value) (tags : List String) (options : Options) :
    remarks.Mirrors (parseTag location tags options) := by
  cases tags with
  | nil =>
    apply (Sides.Mirrors.lift _).bind
    intro literal
    exact (mirrors_remark (Diagnostic.minor_warning _ _)).bind fun _ ↦ .pure _
  | cons tag tags => exact .pure _

theorem mirrors_parseId (location path : Value) (method : String) (declared : Value) :
    remarks.Mirrors (parseId location path method declared) := by
  unfold parseId
  split
  · exact .pure _
  · apply (Sides.Mirrors.lift _).bind
    intro text
    exact (mirrors_remark (Diagnostic.minor_warning _ _)).bind fun _ ↦ .pure _

theorem mirrors_parse (description path : Value) (method : String) (v : Value)
    (inherited : List Parameter) (options : Options) :
    remarks.Mirrors (parse description path method v inherited options) := by
  unfold parse
  apply (Sides.Mirrors.lift _).bind
  intro plain
  apply (Sides.Mirrors.lift _).bind
  intro tags
  apply (mirrors_parseTag _ tags options).bind
  intro tag
  apply (Sides.Mirrors.lift _).bind
  intro declared
  apply (mirrors_parseId _ path method declared).bind
  intro id
  apply (Sides.Mirrors.lift _).bind
  intro raws
  apply (mirrors_parseParameters description raws _).bind
  intro own
  exact (Sides.Mirrors.lift _).bind fun _ ↦ (Sides.Mirrors.lift _).bind fun _ ↦
    (Sides.Mirrors.lift _).bind fun _ ↦ (Sides.Mirrors.lift _).bind fun _ ↦
      (Sides.Mirrors.lift _).bind fun _ ↦ (Sides.Mirrors.lift _).bind fun _ ↦
        (Sides.Mirrors.lift _).bind fun _ ↦ (Sides.Mirrors.lift _).bind fun _ ↦ .pure _

theorem mirrors_parseMethods (description path item : Value) (inherited : List Parameter)
    (options : Options) (methods : List String) :
    remarks.Mirrors (parseMethods description path item inherited options methods) := by
  induction methods with
  | nil => exact .pure _
  | cons method methods ih =>
    unfold parseMethods
    apply (Sides.Mirrors.lift _).bind
    intro v
    split
    · apply (mirrors_parse description path method v inherited options).bind
      intro op
      exact ih.bind fun _ ↦ .pure _
    · exact ih

theorem mirrors_parsePaths (description : Value) (options : Options)
    (entries : List (Value × Value)) :
    remarks.Mirrors (parsePaths description options entries) := by
  induction entries with
  | nil => exact .pure _
  | cons entry entries ih =>
    obtain ⟨path, raw⟩ := entry
    apply (Sides.Mirrors.lift _).bind
    intro item
    apply (Sides.Mirrors.lift _).bind
    intro raws
    apply (mirrors_parseParameters description raws path).bind
    intro inherited
    apply (mirrors_parseMethods description path item inherited options methods).bind
    intro ops
    exact ih.bind fun _ ↦ .pure _

/-- Reading the operations of a description makes no remark that is an error. -/
theorem minor_parseAll (description : Value) (options : Options) :
    Respects (Diagnostic.Appends Diagnostic.Minor) (parseAll description options) :=
  (Respects.lift _).bind fun _ ↦ (Respects.lift _).bind fun _ ↦
    (mirrors_parsePaths description options _).respects

/-- What is read does not depend on the remarks that were made before. -/
theorem exists_exec {α : Type} {x : Reading α} (hx : remarks.Mirrors x) {ds ds₁ : List Diagnostic}
    {a : α} (h : exec x ds = (.ok a, ds₁)) (ds' : List Diagnostic) :
    ∃ ds₂, exec x ds' = (.ok a, ds₂) := by
  obtain ⟨hresult, -⟩ := hx.same (s := ds) (t := ds') trivial trivial
  rw [h] at hresult
  exact ⟨(exec x ds').2, Prod.ext hresult.symm rfl⟩

/-! ## Slots -/

/-- A path and a method with the value under the method in the path item. -/
structure Slot where
  path : Value
  method : String
  value : Value

/-- The object under a method in a path item, if there is one. -/
def objectAt? (item : Value) (method : String) : Option Value :=
  (item.field method).toOption.filter (·.asMap?.isSome)

/-- The slots of a path, in the order of the methods. -/
def slotsAt (description : Value) (entry : Value × Value) : Except Fault (List Slot) := do
  let item ← follow description entry.2
  return methods.filterMap fun method ↦ (objectAt? item method).map (⟨entry.1, method, ·⟩)

/-- The slots of a description, in the order of the paths. -/
def slots (description : Value) : Except Fault (List Slot) := do
  let entries ← (← Description.paths description).entries
  return (← entries.mapM (slotsAt description)).flatten

/-- The operation is read from a slot. -/
structure ReadFrom (description : Value) (options : Options) (slot : Slot) (op : Operation) :
    Prop where
  path : op.path = slot.path
  method : op.method = slot.method
  read : ∃ inherited ds ds', exec (parse description slot.path slot.method slot.value inherited
    options) ds = (.ok op, ds')

theorem eq_of_parse {description path v : Value} {method : String} {inherited : List Parameter}
    {options : Options} {ds ds' : List Diagnostic} {op : Operation}
    (h : exec (parse description path method v inherited options) ds = (.ok op, ds')) :
    op.path = path ∧ op.method = method ∧ ∃ entries,
      (do (← v.field "responses").orEmptyMap.entries) = .ok entries ∧
        parseResponses description entries [] = .ok op.responses := by
  unfold parse at h
  obtain ⟨plain, -, h⟩ := of_exec_lift_bind h
  obtain ⟨tags, -, h⟩ := of_exec_lift_bind h
  obtain ⟨tag, ds₁, -, h⟩ := of_exec_bind h
  obtain ⟨declared, -, h⟩ := of_exec_lift_bind h
  obtain ⟨id, ds₂, -, h⟩ := of_exec_bind h
  obtain ⟨raws, -, h⟩ := of_exec_lift_bind h
  obtain ⟨own, ds₃, -, h⟩ := of_exec_bind h
  obtain ⟨body, -, h⟩ := of_exec_lift_bind h
  obtain ⟨field, hfield, h⟩ := of_exec_lift_bind h
  obtain ⟨entries, hentries, h⟩ := of_exec_lift_bind h
  obtain ⟨responses, hresponses, h⟩ := of_exec_lift_bind h
  obtain ⟨parameters, -, h⟩ := of_exec_lift_bind h
  obtain ⟨summary, -, h⟩ := of_exec_lift_bind h
  obtain ⟨prose, -, h⟩ := of_exec_lift_bind h
  obtain ⟨deprecated, -, h⟩ := of_exec_lift_bind h
  obtain ⟨rfl, -⟩ := exec_pure_eq_ok.1 h
  refine ⟨rfl, rfl, entries, ?_, hresponses⟩
  rw [hfield]
  exact hentries

variable {description : Value} {options : Options}

theorem slots_of_parseMethods {path item : Value} {inherited : List Parameter}
    {methods : List String} {ds ds' : List Diagnostic} {ops : List Operation}
    (h : exec (parseMethods description path item inherited options methods) ds = (.ok ops, ds')) :
    List.Forall₂ (ReadFrom description options)
      (methods.filterMap fun method ↦ (objectAt? item method).map (⟨path, method, ·⟩)) ops := by
  induction methods generalizing ds ds' ops with
  | nil =>
    obtain ⟨rfl, -⟩ := exec_pure_eq_ok.1 h
    exact .nil
  | cons method methods ih =>
    unfold parseMethods at h
    obtain ⟨v, hv, h⟩ := of_exec_lift_bind h
    split at h
    · next hmap =>
      obtain ⟨op, ds₁, hparse, h⟩ := of_exec_bind h
      obtain ⟨rest, ds₂, hrest, h⟩ := of_exec_bind h
      obtain ⟨rfl, -⟩ := exec_pure_eq_ok.1 h
      have hobject : objectAt? item method = some v := by
        rw [objectAt?, hv]
        exact Option.filter_some_pos hmap
      rw [List.filterMap_cons_some (b := ⟨path, method, v⟩) (by rw [hobject]; rfl)]
      obtain ⟨hpath, hmethod, -⟩ := eq_of_parse hparse
      exact .cons ⟨hpath, hmethod, inherited, ds, ds₁, hparse⟩ (ih hrest)
    · next hmap =>
      have hobject : objectAt? item method = none := by
        rw [objectAt?, hv]
        exact Option.filter_some_neg (Bool.not_eq_true _ ▸ hmap)
      rw [List.filterMap_cons_none (by rw [hobject]; rfl)]
      exact ih h

theorem slots_of_parsePaths {entries : List (Value × Value)} {ds ds' : List Diagnostic}
    {ops : List Operation}
    (h : exec (parsePaths description options entries) ds = (.ok ops, ds')) :
    ∃ found, entries.mapM (slotsAt description) = .ok found ∧
      List.Forall₂ (ReadFrom description options) found.flatten ops := by
  induction entries generalizing ds ds' ops with
  | nil =>
    obtain ⟨rfl, -⟩ := exec_pure_eq_ok.1 h
    exact ⟨[], rfl, .nil⟩
  | cons entry entries ih =>
    obtain ⟨path, raw⟩ := entry
    unfold parsePaths at h
    obtain ⟨item, hitem, h⟩ := of_exec_lift_bind h
    obtain ⟨raws, -, h⟩ := of_exec_lift_bind h
    obtain ⟨inherited, ds₁, -, h⟩ := of_exec_bind h
    obtain ⟨first, ds₂, hfirst, h⟩ := of_exec_bind h
    obtain ⟨rest, ds₃, hrest, h⟩ := of_exec_bind h
    obtain ⟨rfl, -⟩ := exec_pure_eq_ok.1 h
    obtain ⟨found, hfound, hread⟩ := ih hrest
    have hslots : slotsAt description (path, raw) = .ok (methods.filterMap fun method ↦
        (objectAt? item method).map (⟨path, method, ·⟩)) := by
      rw [slotsAt, hitem]
      rfl
    refine ⟨_ :: found, ?_, List.rel_append (slots_of_parseMethods hfirst) hread⟩
    rw [List.mapM_cons, hslots, hfound]
    rfl

/-- Reading yields one operation for each slot of the description, in order. -/
theorem slots_of_parseAll {ds ds' : List Diagnostic} {ops : List Operation}
    (h : exec (parseAll description options) ds = (.ok ops, ds')) :
    ∃ found, slots description = .ok found ∧
      List.Forall₂ (ReadFrom description options) found ops := by
  unfold parseAll at h
  obtain ⟨paths, hpaths, h⟩ := of_exec_lift_bind h
  obtain ⟨entries, hentries, h⟩ := of_exec_lift_bind h
  obtain ⟨found, hfound, hread⟩ := slots_of_parsePaths h
  refine ⟨found.flatten, ?_, hread⟩
  rw [slots, hpaths]
  change (do return (← (← paths.entries).mapM (slotsAt description)).flatten) = _
  rw [hentries]
  change (do return (← entries.mapM (slotsAt description)).flatten) = _
  rw [hfound]
  rfl

end Operation

end ApiClient

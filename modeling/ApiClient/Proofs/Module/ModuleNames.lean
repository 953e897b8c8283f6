import ApiClient.Proofs.Emission.MethodNames
import ApiClient.Proofs.Grouping
import ApiClient.Proofs.Module.InlineRecords
import ApiClient.Proofs.Module.DeclaredComponents
import ApiClient.Proofs.Declaration.Order

/-!
# Names at the top level of a module

Declarations have different names, and so have the classes of operations. All of them are
identifiers of one registry, and none is a name of the support code. The class of an operation is
registered under the tag of the operation and a word, so it has the name of a declaration just if a
component or a declared record has the same raw name.
-/

namespace ApiClient.Module

open Work Draft Drafting

/-- The names of the declarations and of the classes. -/
def Content.topLevelNames (content : Content) : List String :=
  content.declarations.map (·.name) ++ content.classes.map (·.name)

theorem supportNames_subset_reserved : supportNames ⊆ Name.reserved := by decide

theorem nodup_supportNames : supportNames.Nodup := by decide

namespace Run

variable {description : Value} {options : Options} {content : Content}
  (run : Run description options content)

/-- A component has the raw name, or a rendering of the run declares a class under it. -/
def Takes (raw : String) : Prop :=
  raw ∈ run.components.map (·.1) ∨
    ∃ r c, run.Renders r ∧ r.Declares run.components c ∧ r.raw = raw

/-- Which names at the top level of the module are shared. -/
structure SettlesNames (run : Run description options content) : Prop where
  declarations : (content.declarations.map (·.name)).Nodup
  classes : (content.classes.map (·.name)).Nodup
  shared : ∀ name,
    (name ∈ content.declarations.map (·.name) ∧ name ∈ content.classes.map (·.name)) ↔
      ∃ op ∈ run.operations, run.final.draft.registry.identifier? op.rawClass = some name ∧
        run.Takes op.rawClass
  all : content.topLevelNames.Nodup ↔ ∀ op ∈ run.operations, ¬ run.Takes op.rawClass
  exports : content.exports.Nodup ↔ ∀ op ∈ run.operations, ¬ run.Takes op.rawClass

/-! ## The final registry -/

theorem extends_final : Name.Registry.forModule.Extends run.final.draft.registry :=
  (Name.Registry.extends_resolveAll _ _).trans run.aging_final.registry

/-- No identifier of the module is reserved. -/
theorem not_mem_reserved {raw name : String}
    (h : run.final.draft.registry.identifier? raw = some name) : name ∉ Name.reserved :=
  run.extends_final.fresh (Name.Registry.identifier?_new _ _ raw) h

theorem mem_declarations_iff (name : String) :
    name ∈ content.declarations.map (·.name) ↔
      (run.final.draft.declarations.find? name).isSome := by
  rw [← run.find?_declarations, Declarations.find?, List.find?_isSome]
  simp only [List.mem_map, decide_eq_true_eq]

/-- Something is declared under the identifier of a raw name just if that is taken. -/
theorem find?_isSome_iff_takes {raw name : String}
    (h : run.final.draft.registry.identifier? raw = some name) :
    (run.final.draft.declarations.find? name).isSome ↔ run.Takes raw := by
  constructor
  · intro hsome
    -- What is declared has a raw name, and no other raw name has the identifier.
    obtain ⟨x, hx⟩ := Option.isSome_iff_exists.1 hsome
    cases x with
    | synonym other text =>
      obtain rfl : other = name := Declarations.name_of_find? hx
      obtain ⟨raw', hcomponent, hraw'⟩ := run.exists_component hx
      rw [run.aging_final.sound.registry.injective h hraw']
      exact .inl hcomponent
    | record c =>
      obtain ⟨r, hr, hdeclares, hraw⟩ := run.exists_declares hx
      exact .inr ⟨r, c, hr, hdeclares, run.aging_final.sound.registry.injective hraw h⟩
  · rintro (hcomponent | ⟨r, c, hr, hdeclares, rfl⟩)
    · have haging := (run.aging_grouped run.Renders).trans run.aging_emitted
      obtain ⟨name', hname', hsome⟩ := haging.declared (run.declared_component hcomponent)
      rwa [Option.some.inj (h.symm.trans hname')]
    · obtain ⟨hname, hfound⟩ := find?_of_declares hr hdeclares
      rw [Option.some.inj (h.symm.trans hname)]
      rcases hfound with hfound | ⟨text, hfound⟩ <;> rw [hfound] <;> rfl

/-- The name of each declaration is the identifier of some raw name. -/
theorem exists_identifier_of_declaration {name : String}
    (h : name ∈ content.declarations.map (·.name)) :
    ∃ raw, run.final.draft.registry.identifier? raw = some name := by
  rw [run.mem_declarations_iff] at h
  obtain ⟨x, hx⟩ := Option.isSome_iff_exists.1 h
  cases x with
  | synonym other text =>
    obtain rfl : other = name := Declarations.name_of_find? hx
    obtain ⟨raw, -, hraw⟩ := run.exists_component hx
    exact ⟨raw, hraw⟩
  | record c =>
    obtain ⟨r, -, -, hraw⟩ := run.exists_declares hx
    exact ⟨r.raw, hraw⟩

/-! ## Classes -/

/-- The classes have the names of the groups. -/
theorem map_name_classes : content.classes.map (·.name) = run.groups.map (·.name) := by
  have hturns := Emission.exists_turns_of_emitClasses run.exec_emitClasses
  have hnames : List.Forall₂ (· = ·) (run.groups.map (·.name)) (content.classes.map (·.name)) := by
    rw [List.forall₂_map_left_iff, List.forall₂_map_right_iff]
    refine hturns.imp ?_
    rintro g c ⟨turns, htaken, -⟩
    exact htaken.1.symm
  exact (List.forall₂_eq_eq_eq ▸ hnames).symm

theorem grouped : Group.Grouped run.operations run.groups run.emission.draft.registry :=
  Group.grouped_ofOperations run.operations run.declared.registry

/-- The classes are named by the identifiers of the operations' classes. -/
theorem mem_classes_iff (name : String) :
    name ∈ content.classes.map (·.name) ↔
      ∃ op ∈ run.operations, run.final.draft.registry.identifier? op.rawClass = some name := by
  rw [run.map_name_classes]
  have hregistry := run.aging_emitted.registry
  constructor
  · intro hname
    obtain ⟨g, hg, rfl⟩ := List.mem_map.1 hname
    obtain ⟨op, hop⟩ := List.exists_mem_of_ne_nil _ (run.grouped.nonempty g hg)
    rw [run.grouped.operations g hg, List.mem_filter, Operation.isIn_iff] at hop
    exact ⟨op, hop.1, hregistry.assigned hop.2⟩
  · rintro ⟨op, hop, hname⟩
    obtain ⟨g, hg, hin⟩ := run.grouped.covered op hop
    have hassigned := hregistry.assigned (Operation.isIn_iff.1 hin)
    rw [Option.some.inj (hname.symm.trans hassigned)]
    exact List.mem_map_of_mem hg

theorem exists_identifier_of_operation {op : Operation} (h : op ∈ run.operations) :
    ∃ name, run.final.draft.registry.identifier? op.rawClass = some name := by
  obtain ⟨g, -, hin⟩ := run.grouped.covered op h
  exact ⟨g.name, run.aging_emitted.registry.assigned (Operation.isIn_iff.1 hin)⟩

/-! ## Shared names -/

theorem mem_both_iff (name : String) :
    (name ∈ content.declarations.map (·.name) ∧ name ∈ content.classes.map (·.name)) ↔
      ∃ op ∈ run.operations, run.final.draft.registry.identifier? op.rawClass = some name ∧
        run.Takes op.rawClass := by
  rw [run.mem_declarations_iff, run.mem_classes_iff]
  constructor
  · rintro ⟨hsome, op, hop, hname⟩
    exact ⟨op, hop, hname, (run.find?_isSome_iff_takes hname).1 hsome⟩
  · rintro ⟨op, hop, hname, htakes⟩
    exact ⟨(run.find?_isSome_iff_takes hname).2 htakes, op, hop, hname⟩

theorem nodup_declarations (run : Run description options content) :
    (content.declarations.map (·.name)).Nodup := by
  rw [run.declarations_eq]
  exact (Declarations.orderly_ordered _).1

theorem nodup_classes (run : Run description options content) :
    (content.classes.map (·.name)).Nodup := by
  rw [run.map_name_classes]
  exact run.grouped.names

theorem nodup_topLevelNames_iff :
    content.topLevelNames.Nodup ↔ ∀ op ∈ run.operations, ¬ run.Takes op.rawClass := by
  unfold Content.topLevelNames
  rw [List.nodup_append', and_iff_right run.nodup_declarations, and_iff_right run.nodup_classes]
  constructor
  · intro hdisjoint op hop htakes
    obtain ⟨name, hname⟩ := run.exists_identifier_of_operation hop
    obtain ⟨hdeclaration, hclass⟩ := (run.mem_both_iff name).2 ⟨op, hop, hname, htakes⟩
    exact hdisjoint hdeclaration hclass
  · intro hnone name hdeclaration hclass
    obtain ⟨op, hop, -, htakes⟩ := (run.mem_both_iff name).1 ⟨hdeclaration, hclass⟩
    exact hnone op hop htakes

/-- Each name at the top level is the identifier of some raw name. -/
theorem exists_identifier_of_topLevelName (run : Run description options content) {name : String}
    (h : name ∈ content.topLevelNames) :
    ∃ raw, run.final.draft.registry.identifier? raw = some name := by
  rcases List.mem_append.1 h with hdeclaration | hclass
  · exact run.exists_identifier_of_declaration hdeclaration
  · obtain ⟨op, -, hop⟩ := (run.mem_classes_iff name).1 hclass
    exact ⟨op.rawClass, hop⟩

/-- The names at the top level are not those of the support code. -/
theorem topLevelNames_disjoint (run : Run description options content) :
    content.topLevelNames.Disjoint supportNames := by
  intro name hname hsupport
  obtain ⟨raw, hraw⟩ := run.exists_identifier_of_topLevelName hname
  exact run.not_mem_reserved hraw (supportNames_subset_reserved hsupport)

theorem nodup_exports_iff (run : Run description options content) :
    content.exports.Nodup ↔ content.topLevelNames.Nodup := by
  have hperm : content.exports.Perm (content.topLevelNames ++ supportNames) :=
    List.mergeSort_perm _ _
  rw [hperm.nodup_iff, List.nodup_append', and_iff_right nodup_supportNames,
    and_iff_left run.topLevelNames_disjoint]

theorem settlesNames : run.SettlesNames where
  declarations := run.nodup_declarations
  classes := run.nodup_classes
  shared := run.mem_both_iff
  all := run.nodup_topLevelNames_iff
  exports := run.nodup_exports_iff.trans run.nodup_topLevelNames_iff

end Run

/-- When a content is built, the declarations have different names and so have the classes. A
declaration and a class share a name just if the raw name of the class of some operation is that of
a component or of a class that is declared for a record. So the names at the top level, and those
that are exported, are all different just if there is no such operation. -/
theorem moduleNames_nodup_iff {description : Value} {options : Options} {content : Content}
    (h : build description options = .ok content) :
    ∃ run : Run description options content, run.SettlesNames := by
  obtain ⟨run⟩ := exists_run h
  exact ⟨run, run.settlesNames⟩

/-- A description of one operation, which is tagged `pets` and has a parameter of a record type. -/
def petsBy (parameter : String) : Value :=
  .map [("paths", .map [("/pets", .map [("get", .map [
    ("operationId", "pets"),
    ("tags", .list ["pets"]),
    ("parameters", .list [.map [
      ("name", .text parameter), ("in", "query"), ("schema", objectOf "a")]]),
    ("responses", .map [])])])])]

theorem moduleNames_filter :
    ∃ content, build (petsBy "filter") {} = .ok content ∧
      content.topLevelNames = ["PetsFilter", "PetsApi"] ∧
      ∃ run : Run (petsBy "filter") {} content, run.SettlesNames := by
  have hnames : (build (petsBy "filter") {}).toOption.map (·.topLevelNames) =
      some ["PetsFilter", "PetsApi"] := by decide +kernel
  obtain ⟨content, hbuild, hcontent⟩ := exists_of_toOption_map hnames
  exact ⟨content, hbuild, hcontent, moduleNames_nodup_iff hbuild⟩

/-- The record of a parameter `api` and the class of the tag have one raw name. -/
theorem moduleNames_parameterApi :
    ∃ content, build (petsBy "api") {} = .ok content ∧
      content.declarations.map (·.name) = ["PetsApi"] ∧
      content.classes.map (·.name) = ["PetsApi"] ∧
      ¬ content.topLevelNames.Nodup := by
  have hnames : (build (petsBy "api") {}).toOption.map
      (fun content ↦ (content.declarations.map (·.name), content.classes.map (·.name))) =
        some (["PetsApi"], ["PetsApi"]) := by decide +kernel
  obtain ⟨content, hbuild, hcontent⟩ := exists_of_toOption_map hnames
  obtain ⟨hdeclarations, hclasses⟩ := Prod.mk.injEq .. ▸ hcontent
  refine ⟨content, hbuild, hdeclarations, hclasses, ?_⟩
  unfold Content.topLevelNames
  rw [hdeclarations, hclasses]
  decide

end ApiClient.Module

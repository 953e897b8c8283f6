import ApiClient.Proofs.Module.InlineRecords
import ApiClient.Proofs.Module.Inheritance
import ApiClient.Proofs.Module.Progress

/-!
# Bases that are classes

A class inherits from the classes of record components. Whether a component is a record is told by
its own shape, while its declaration may be degraded to an alias for what stands in one of its
fields. So a base is a class just if no error was reported at its component.
-/

namespace ApiClient

open Work Draft

namespace Module

/-- No two components of a description have the same name. -/
def DistinctNames (description : Value) : Prop :=
  ∀ components, (do Description.components (← Description.shapes description)) = .ok components →
    (components.map (·.1)).Nodup

/-- The declaration under a name is a class. -/
def Content.DeclaresClass (content : Content) (name : String) : Prop :=
  ∃ c : RecordClass, Declarations.find? content.declarations name = some (.record c)

namespace Run

variable {description : Value} {options : Options} {content : Content}

/-- A record component whose identifier is a base of some class. -/
def Inherited (run : Run description options content) (root : String) : Prop :=
  run.components.IsRoot root ∧ ∃ x ∈ content.declarations, ∃ base ∈ x.bases,
    run.final.draft.registry.identifier? root = some base

/-- The record components are declared as classes and the bases are classes, unless an error was
reported at the component. -/
structure SettlesBases (run : Run description options content) : Prop where
  roots : ∀ {raw root}, (run.components.recordBase [] raw).outcome = .ok (some root) →
    ∃ name, run.declared.registry.identifier? root = some name ∧
      ((∃ c : RecordClass, run.declared.declarations.find? name = some (.record c)) ↔
        ¬ Degraded content.diagnostics root)
  bases : ∀ x ∈ content.declarations, ∀ base ∈ x.bases, ∃ root, run.Inherited root ∧
    run.final.draft.registry.identifier? root = some base ∧
      (content.DeclaresClass base ↔ ¬ Degraded content.diagnostics root)
  all : (∀ x ∈ content.declarations, ∀ base ∈ x.bases, content.DeclaresClass base) ↔
    ∀ root, run.Inherited root → ¬ Degraded content.diagnostics root

variable (run : Run description options content)

/-- Once the components are declared, a record has an alias just if the content has an error at
it. -/
theorem exists_identifier_of_isRoot (hmap : (run.components.map (·.1)).Nodup) {root : String}
    (h : run.components.IsRoot root) :
    ∃ name, run.declared.registry.identifier? root = some name ∧
      (run.declared.declarations.find? name).isSome ∧
      (run.declared.Aliased name ↔ Degraded content.diagnostics root) := by
  obtain ⟨name, hname, hsome, haliased⟩ :=
    exists_identifier_of_declareAll hmap run.exec_declareAll h
  exact ⟨name, hname, hsome, by rw [haliased, degraded_iff_of_appends run.appends_final]⟩

theorem settlesBases (hmap : (run.components.map (·.1)).Nodup) : run.SettlesBases := by
  have hfounded := run.reached.founded hmap
  have hbase : ∀ x ∈ content.declarations, ∀ base ∈ x.bases, ∃ root,
      run.components.IsRoot root ∧ run.final.draft.registry.identifier? root = some base := by
    intro x hx base hbase
    rw [run.declarations_eq] at hx
    have hinherits : run.final.draft.declarations.Inherits x.name base :=
      ⟨x, Declarations.mem_of_mem_ordered hx, rfl, hbase⟩
    obtain ⟨c, hc, hbase⟩ := exists_class_of_inherits hfounded.sound hinherits
    obtain ⟨raw, -, hbases⟩ := hfounded.based hc
    obtain ⟨root, hroot, hname, -⟩ := hbases base hbase
    exact ⟨root, hroot, hname⟩
  have hclass : ∀ {root base}, run.components.IsRoot root →
      run.final.draft.registry.identifier? root = some base →
      (content.DeclaresClass base ↔ ¬ Degraded content.diagnostics root) := by
    intro root base hroot hname
    obtain ⟨name, hdeclared, hsome, haliased⟩ := run.exists_identifier_of_isRoot hmap hroot
    have hassigned := run.growth_final.registry.assigned hdeclared
    obtain rfl : base = name := Option.some.inj (hname.symm.trans hassigned)
    obtain ⟨x, hx⟩ := Option.isSome_iff_exists.1 hsome
    unfold Content.DeclaresClass
    rw [run.find?_declarations, exists_class_iff (by rw [run.growth_final.kept hx]; rfl),
      run.growth_final.aliased_iff, haliased]
  refine ⟨fun {raw root} hraw ↦ ?_, fun x hx base hmem ↦ ?_, fun hall root hinherited ↦ ?_,
    fun hnone x hx base hmem ↦ ?_⟩
  · obtain ⟨name, hname, hsome, haliased⟩ :=
      run.exists_identifier_of_isRoot hmap (Components.isRoot_of_recordBase hraw)
    exact ⟨name, hname, by rw [exists_class_iff hsome, haliased]⟩
  · obtain ⟨root, hroot, hname⟩ := hbase x hx base hmem
    exact ⟨root, ⟨hroot, x, hx, base, hmem, hname⟩, hname, hclass hroot hname⟩
  · obtain ⟨hroot, x, hx, base, hmem, hname⟩ := hinherited
    exact (hclass hroot hname).1 (hall x hx base hmem)
  · obtain ⟨root, hroot, hname⟩ := hbase x hx base hmem
    exact (hclass hroot hname).2 (hnone root ⟨hroot, x, hx, base, hmem, hname⟩)

end Run

/-- When a content is built from components of different names, a name that stands for a record
component has a class once the components are declared just if no error was reported at the
component, each base in the content is the identifier of such a component and a class under the same
condition, and all bases are classes just if no component that is inherited from was degraded. -/
theorem baseClasses_iff {description : Value} {options : Options} {content : Content}
    (h : build description options = .ok content) (hnames : DistinctNames description) :
    ∃ run : Run description options content, run.SettlesBases := by
  obtain ⟨run⟩ := exists_run h
  exact ⟨run, run.settlesBases (hnames _ run.components_eq)⟩

/-- A reference to a component. -/
def referenceTo (name : String) : Value :=
  .map [("$ref", .text ("#/components/schemas/" ++ name))]

/-- A description of components alone. -/
def describing (schemas : List (Value × Value)) : Value :=
  .map [("components", .map [("schemas", .map schemas)]), ("paths", .map [])]

theorem distinctNames_of_toOption {description : Value} {n : List String}
    (h : (do Description.components (← Description.shapes description) :
      Except Fault Components).toOption.map (·.map (·.1)) = some n)
    (hnodup : n.Nodup) : DistinctNames description := by
  intro components hcomponents
  rw [hcomponents] at h
  rwa [← Option.some.inj h] at hnodup

/-- The name of a declaration, its bases, and whether it is a class. -/
def kindOf : Declaration → String × List String × Bool
  | .synonym name _ => (name, [], false)
  | .record c => (c.name, c.bases, true)

def Content.kinds (content : Content) : List (String × List String × Bool) :=
  content.declarations.map kindOf

/-- A record that is derived from another one. -/
def derivedRecord : Value := describing [
  ("Base", objectOf "x"),
  ("Sub", .map [("allOf", .list [referenceTo "Base", objectOf "z"])])]

theorem baseClasses_derivedRecord :
    ∃ content, build derivedRecord {} = .ok content ∧
      content.kinds = [("Base", [], true), ("Sub", ["Base"], true)] ∧
      DistinctNames derivedRecord ∧
      ∃ run : Run derivedRecord {} content, run.SettlesBases := by
  have hkinds : (build derivedRecord {}).toOption.map (·.kinds) =
      some [("Base", [], true), ("Sub", ["Base"], true)] := by decide +kernel
  obtain ⟨content, hbuild, hcontent⟩ := exists_of_toOption_map hkinds
  have hnames : DistinctNames derivedRecord :=
    distinctNames_of_toOption (n := ["Base", "Sub"]) (by decide +kernel) (by decide)
  exact ⟨content, hbuild, hcontent, hnames, baseClasses_iff hbuild hnames⟩

/-- The same record, one field of which refers to a component that refers to itself. -/
def degradedBase : Value := describing [
  ("Loop", referenceTo "Loop"),
  ("Base", .map [("type", "object"), ("properties", .map [
    ("f", .map [("allOf", .list [referenceTo "Loop", objectOf "x"])])])]),
  ("Sub", .map [("allOf", .list [referenceTo "Base", objectOf "z"])])]

/-- The record is degraded for its field and inherited from for its shape. -/
theorem baseClasses_degradedBase :
    DistinctNames degradedBase ∧ ∃ content, build degradedBase {} = .ok content ∧
      ∃ x ∈ content.declarations, ∃ base ∈ x.bases, ¬ content.DeclaresClass base := by
  refine ⟨distinctNames_of_toOption (n := ["Loop", "Base", "Sub"]) (by decide +kernel)
    (by decide), ?_⟩
  have hkinds : (build degradedBase {}).toOption.map (·.kinds) =
      some [("Loop", [], false), ("Base", [], false), ("Sub", ["Base"], true)] := by
    decide +kernel
  obtain ⟨content, hbuild, hcontent⟩ := exists_of_toOption_map hkinds
  have hsub : ("Sub", ["Base"], true) ∈ content.kinds := by
    rw [hcontent]
    decide
  obtain ⟨x, hx, hkind⟩ := List.mem_map.1 hsub
  have hbases : x.bases = ["Base"] := by
    cases x with
    | synonym => cases hkind
    | record c => exact congrArg (·.2.1) hkind
  refine ⟨content, hbuild, x, hx, "Base", hbases ▸ List.mem_singleton_self _, ?_⟩
  rintro ⟨c, hc⟩
  have hname : c.name = "Base" := Declarations.name_of_find? hc
  have hbase : ("Base", c.bases, true) ∈ content.kinds :=
    List.mem_map.2 ⟨.record c, Declarations.mem_of_find? hc, by rw [kindOf, hname]⟩
  rw [hcontent] at hbase
  simp at hbase

end Module

end ApiClient

import ApiClient.Proofs.Module.BaseClasses
import ApiClient.Proofs.Module.ModuleNames

/-!
# Models of components

The names of the components are claimed before anything else, and the components are declared
before any operation is read. What follows only adds to the names and to the declarations, also
where an operation fails halfway. So the model of a component is settled by the components alone,
and its identifier by their names.
-/

namespace ApiClient

namespace Description

/-- The names of the component schemas in their order. -/
def schemaNames (description : Value) : Except Fault (List Value) := do
  return (← (← schemas description).entries).map (·.1)

end Description

namespace Module

namespace Run

variable {description description' : Value} {options options' : Options}
  {content content' : Content}

theorem schemaNames_eq (run : Run description options content) :
    Description.schemaNames description = .ok ((run.components.map (·.1)).map Value.text) := by
  obtain ⟨v, entries, hv, hentries, hread⟩ := exists_entries_of_components run.components_eq
  have hnames : entries.map (·.1) = (run.components.map (·.1)).map Value.text := by
    rw [← List.forall₂_eq_eq_eq, List.map_map, List.forall₂_map_left_iff,
      List.forall₂_map_right_iff]
    exact hread.imp fun _ _ h ↦ h.1
  unfold Description.schemaNames
  rw [hv]
  change (v.entries >>= fun entries ↦ pure (entries.map (·.1))) = _
  rw [hentries, ← hnames]
  rfl

/-- Runs on the same component schemas have the same components and declare them alike. -/
theorem declared_eq_of_schemas (run : Run description options content)
    (run' : Run description' options' content')
    (h : Description.schemas description = Description.schemas description') :
    run.declared = run'.declared := by
  have hshapes : Description.shapes description = Description.shapes description' := by
    unfold Description.shapes
    rw [h]
  have hcomponents : run.components = run'.components := by
    have hsame := run.components_eq
    rw [hshapes, run'.components_eq] at hsame
    exact (Except.ok.inj hsame).symm
  have hdeclared := run.declared_eq
  rw [hcomponents, run'.declared_eq] at hdeclared
  exact (congrArg Prod.snd hdeclared).symm

/-- What an identifier is settled to be when the names of the components are claimed, it is in the
end. -/
theorem identifier?_final (run : Run description options content) {raw name : String}
    (h : (Name.Registry.forModule.resolveAll (run.components.map (·.1))).identifier? raw =
      some name) : run.final.draft.registry.identifier? raw = some name :=
  run.growth_final.registry.assigned (run.aging_declared.registry.assigned h)

/-- A component has the identifier that the names of the components settle, and the declaration
that stands under it before the operations are read. -/
theorem exists_model (run : Run description options content) {raw : String}
    (h : raw ∈ run.components.map (·.1)) :
    ∃ name x,
      (Name.Registry.forModule.resolveAll (run.components.map (·.1))).identifier? raw =
        some name ∧
      run.declared.declarations.find? name = some x ∧
      Declarations.find? content.declarations name = some x := by
  have hcontains : (Name.Registry.forModule.resolveAll
      (run.components.map (·.1))).contains raw = true := by
    rw [Name.Registry.contains_resolveAll, List.contains_iff_mem.2 h, Bool.or_true]
  obtain ⟨name, hname⟩ := Option.isSome_iff_exists.1 hcontains
  obtain ⟨name', hname', hsome⟩ := run.declared_component h
  have hassigned : run.declared.registry.identifier? raw = some name :=
    run.aging_declared.registry.assigned hname
  obtain rfl : name = name' := Option.some.inj (hassigned.symm.trans hname')
  obtain ⟨x, hx⟩ := Option.isSome_iff_exists.1 hsome
  refine ⟨name, x, hname, hx, ?_⟩
  rw [run.find?_declarations]
  exact run.growth_final.kept hx

end Run

/-- Two contents that are built from descriptions with the same component names in the same order
have a declaration for each component, under an identifier that is the same in both. When the
component schemas are the same, so is the declaration, whatever the paths and the options are. -/
theorem componentModels_agree {description description' : Value} {options options' : Options}
    {content content' : Content} (h : build description options = .ok content)
    (h' : build description' options' = .ok content')
    (hnames : Description.schemaNames description = Description.schemaNames description') :
    ∃ (run : Run description options content) (run' : Run description' options' content')
      (raws : List String),
      Description.schemaNames description = .ok (raws.map Value.text) ∧
      ∀ raw ∈ raws, ∃ name x x',
        run.final.draft.registry.identifier? raw = some name ∧
        run'.final.draft.registry.identifier? raw = some name ∧
        Declarations.find? content.declarations name = some x ∧
        Declarations.find? content'.declarations name = some x' ∧
        (Description.schemas description = Description.schemas description' → x = x') := by
  obtain ⟨run⟩ := exists_run h
  obtain ⟨run'⟩ := exists_run h'
  have hraws : run.components.map (·.1) = run'.components.map (·.1) := by
    have htexts := run.schemaNames_eq
    rw [hnames, run'.schemaNames_eq, Except.ok.injEq] at htexts
    have hinjective : Function.Injective (List.map Value.text) :=
      List.map_injective_iff.2 fun _ _ hsame ↦ Value.text.inj hsame
    exact (hinjective htexts).symm
  refine ⟨run, run', run.components.map (·.1), run.schemaNames_eq, fun raw hraw ↦ ?_⟩
  obtain ⟨name, x, hname, hx, hdeclared⟩ := run.exists_model hraw
  obtain ⟨name', x', hname', hx', hdeclared'⟩ := run'.exists_model (hraws ▸ hraw)
  rw [← hraws] at hname'
  obtain rfl : name = name' := Option.some.inj (hname.symm.trans hname')
  refine ⟨name, x, x', run.identifier?_final hname, run'.identifier?_final (hraws ▸ hname),
    hdeclared, hdeclared', fun hschemas ↦ ?_⟩
  rw [run.declared_eq_of_schemas run' hschemas] at hx
  exact Option.some.inj (hx.symm.trans hx')

/-- A description of the same components with paths of its own. -/
def describingWith (schemas paths : List (Value × Value)) : Value :=
  .map [("components", .map [("schemas", .map schemas)]), ("paths", .map paths)]

/-- A record, two components that refer to each other, and a record with a field of that kind. -/
def entangledSchemas : List (Value × Value) := [
  ("Pet", objectOf "x"), ("A", referenceTo "B"), ("B", referenceTo "A"),
  ("Pet item", .map [("allOf", .list [referenceTo "Pet", objectOf "z"])])]

/-- Two operations whose types have the raw names of components. The first one is skipped for its
second parameter. -/
def entangledPaths : List (Value × Value) := [
  ("/pets", .map [("get", .map [
    ("operationId", "Pet"), ("tags", .list ["Pet"]),
    ("parameters", .list [
      .map [("name", "item"), ("in", "query"), ("schema", objectOf "a")],
      .map [("name", "b"), ("in", "query"), ("schema",
        .map [("allOf", .list [referenceTo "A", objectOf "c"])])]]),
    ("responses", .map [])])]),
  ("/b", .map [("get", .map [
    ("operationId", "A"), ("tags", .list ["Pet"]),
    ("parameters", .list [
      .map [("name", "item"), ("in", "query"), ("schema", objectOf "a")]]),
    ("responses", .map [])])])]

/-- The operations add a class of their own and leave the components as they are. -/
theorem componentModels_entangled :
    ∃ content content',
      build (describingWith entangledSchemas []) {} = .ok content ∧
      build (describingWith entangledSchemas entangledPaths) {} = .ok content' ∧
      content.kinds = [("Pet", [], true), ("A", [], false), ("B", [], false),
        ("PetItem", ["Pet"], true)] ∧
      content'.kinds = [("Pet", [], true), ("A", [], false), ("B", [], false),
        ("PetItem", ["Pet"], true), ("AItem", [], true)] ∧
      content'.diagnostics.length = 5 ∧
      Description.schemas (describingWith entangledSchemas []) =
        Description.schemas (describingWith entangledSchemas entangledPaths) ∧
      ∃ (run : Run (describingWith entangledSchemas []) {} content)
        (run' : Run (describingWith entangledSchemas entangledPaths) {} content')
        (raws : List String),
        Description.schemaNames (describingWith entangledSchemas []) =
          .ok (raws.map Value.text) ∧
        ∀ raw ∈ raws, ∃ name x x',
          run.final.draft.registry.identifier? raw = some name ∧
          run'.final.draft.registry.identifier? raw = some name ∧
          Declarations.find? content.declarations name = some x ∧
          Declarations.find? content'.declarations name = some x' ∧
          (Description.schemas (describingWith entangledSchemas []) =
            Description.schemas (describingWith entangledSchemas entangledPaths) → x = x') := by
  have hkinds : (build (describingWith entangledSchemas []) {}).toOption.map (·.kinds) =
      some [("Pet", [], true), ("A", [], false), ("B", [], false),
        ("PetItem", ["Pet"], true)] := by decide +kernel
  have hkinds' : (build (describingWith entangledSchemas entangledPaths) {}).toOption.map
      (fun content ↦ (content.kinds, content.diagnostics.length)) =
      some ([("Pet", [], true), ("A", [], false), ("B", [], false),
        ("PetItem", ["Pet"], true), ("AItem", [], true)], 5) := by decide +kernel
  obtain ⟨content, hbuild, hcontent⟩ := exists_of_toOption_map hkinds
  obtain ⟨content', hbuild', hcontent'⟩ := exists_of_toOption_map hkinds'
  obtain ⟨hdeclarations, hdiagnostics⟩ := Prod.mk.injEq .. ▸ hcontent'
  exact ⟨content, content', hbuild, hbuild', hcontent, hdeclarations, hdiagnostics, rfl,
    componentModels_agree hbuild hbuild' rfl⟩

end Module

end ApiClient

import ApiClient.Proofs.Draft.Bases
import ApiClient.Proofs.Module.ComponentModels
import ApiClient.Proofs.Module.Docstrings
import ApiClient.Proofs.Module.Operations
import ApiClient.Proofs.Module.Skipping
import ApiClient.Proofs.Operation.Erasure

/-!
# Deletion of a skipped operation

All bases are classes of components, which are declared first, so the classes that were declared
for a skipped operation can be left out without a change of order. With the methods the same, the
description without the operation is built into the content without these classes. It takes one
operation of the same identifier to see the trace of a skipped one.
-/

namespace ApiClient.Module

open Work Emission Name.Registry

/-! ## Stages of a build -/

variable {description description' : Value} {options : Options} {content : Content}

/-- A content is built from its stages. -/
theorem build_of_stages {components : Components} {declared : Draft} {operations : List Operation}
    {diagnostics : List Diagnostic} {classes : List ApiClass} {final : Emission}
    {title version : Value}
    (hcomponents : (do Description.components (← Description.shapes description)) = .ok components)
    (hdeclared : exec (declareAll components components)
      { Draft.empty with registry := Name.Registry.forModule.resolveAll (components.map (·.1)) } =
        (.ok (), declared))
    (hoperations : (Operation.parseAll description options).run.run declared.diagnostics =
      (.ok operations, diagnostics))
    (hclasses : exec
      (emitClasses ⟨components, options⟩ (Group.ofOperations operations declared.registry).1)
      { draft := { declared with
          registry := (Group.ofOperations operations declared.registry).2, diagnostics }
        operationIds := []
        methods := .forMethods } = (.ok classes, final))
    (htitle : infoField description "title" "API" = .ok title)
    (hversion : infoField description "version" "unknown" = .ok version) :
    build description options = .ok {
      title, version, classes
      declarations := final.draft.declarations.ordered
      diagnostics := final.draft.diagnostics
      inlineSupport := options.inlineSupport } := by
  obtain ⟨shapes, hshapes, hcomponents⟩ := of_bind_eq_ok hcomponents
  unfold exec at hdeclared hclasses
  unfold build
  simp only [hshapes, hcomponents, hdeclared, hoperations, hclasses, htitle, hversion, bind,
    Except.bind]
  rfl

/-- The title and the version of a content that was built are those of the description. -/
theorem info_of_build (h : build description options = .ok content) :
    infoField description "title" "API" = .ok content.title ∧
      infoField description "version" "unknown" = .ok content.version := by
  unfold build at h
  obtain ⟨_, -, h⟩ := of_bind_eq_ok h
  obtain ⟨_, -, h⟩ := of_bind_eq_ok h
  obtain ⟨_, -, h⟩ := of_bind_eq_ok h
  obtain ⟨_, -, h⟩ := of_bind_eq_ok h
  obtain ⟨_, -, h⟩ := of_bind_eq_ok h
  obtain ⟨title, htitle, h⟩ := of_bind_eq_ok h
  obtain ⟨version, hversion, h⟩ := of_bind_eq_ok h
  obtain rfl := Except.ok.inj h
  exact ⟨htitle, hversion⟩

/-! ## Declarations -/

namespace Run

variable (run : Run description options content)

/-- Every base is declared once the components are. -/
theorem rooted_final :
    Declarations.Rooted run.declared.declarations run.final.draft.declarations := by
  intro d hd base hbase
  cases d with
  | synonym name hint => cases hbase
  | record c =>
    have hfound : run.final.draft.declarations.find? c.name = some (.record c) :=
      (Declarations.find?_eq_some_iff run.growth_final.sound.names).2 ⟨hd, rfl⟩
    obtain ⟨r, hr, hdeclares, -⟩ := run.exists_declares hfound
    obtain ⟨hsound, hafter⟩ := run.aging_of_renders hr
    obtain ⟨_, _, root, -, -, -, hroot, hnamed⟩ := hdeclares.exists_root hsound hbase
    obtain ⟨name, hname, hsome⟩ :=
      run.declared_component (Components.isRoot_of_recordBase hroot).mem_names
    have hsame := (run.growth_final.registry.assigned hname).symm.trans
      (hafter.registry.assigned hnamed)
    obtain ⟨e, he⟩ := Option.isSome_iff_exists.1 hsome
    exact ⟨e, Declarations.mem_of_find? he,
      (Declarations.name_of_find? he).trans (Option.some.inj hsame)⟩

/-- What is declared for the operations comes after what is declared for the components. -/
theorem exists_emitted : ∃ more,
    run.final.draft.declarations = run.declared.declarations ++ more := by
  have hreaches : Draft.Reaches run.emission.draft
      (exec (emitClasses run.setting run.groups) run.emission).2.draft :=
    reaches_emitClasses run.groups run.emission
  rw [run.exec_emitClasses] at hreaches
  exact Declarations.exists_append_of_kept hreaches.names run.growth_final.sound.names
    run.growth_final.kept

/-- Declarations that are made for operations can be left out without a change of order. -/
theorem ordered_filter {declared : List String}
    (h : ∀ d ∈ run.declared.declarations, d.name ∉ declared) :
    Declarations.ordered (List.filter (fun d ↦ d.name ∉ declared) run.final.draft.declarations) =
      List.filter (fun d ↦ d.name ∉ declared) content.declarations := by
  obtain ⟨more, hmore⟩ := run.exists_emitted
  have hrooted := run.rooted_final
  have hnodup := run.growth_final.sound.names
  rw [hmore] at hrooted hnodup
  have hkept : List.filter (fun d ↦ d.name ∉ declared) run.declared.declarations =
      run.declared.declarations :=
    List.filter_eq_self.2 fun d hd ↦ decide_eq_true (h d hd)
  have hkeptOrdered : List.filter (fun d ↦ d.name ∉ declared) run.declared.declarations.ordered =
      run.declared.declarations.ordered :=
    List.filter_eq_self.2 fun d hd ↦ decide_eq_true (h d (Declarations.mem_of_mem_ordered hd))
  rw [run.declarations_eq, hmore, List.filter_append, hkept,
    Declarations.ordered_append hnodup hrooted, List.filter_append, hkeptOrdered]
  refine Declarations.ordered_append ?_ ?_
  · refine List.Nodup.sublist (List.Sublist.map _ ?_) hnodup
    exact List.Sublist.append_left List.filter_sublist _
  · obtain ⟨hcore, hrest⟩ := List.forall_mem_append.1 hrooted
    exact List.forall_mem_append.2 ⟨hcore, fun d hd ↦ hrest d (List.mem_of_mem_filter hd)⟩

end Run

/-! ## Deletion -/

/-- To erase an operation from the paths of a description is to delete it from the run. -/
theorem Run.exists_deletion (run : Run description options content) {path : Value} {method : String}
    (erasure : Operation.Erasure description description' path method) :
    ∃ position : run.Position, position.op.path = path ∧ position.op.method = method ∧
      Nonempty (position.Deletion description') := by
  obtain ⟨before, op, after, hops, hpath, hmethod, diagnostics, hothers⟩ :=
    erasure.exec_parseAll run.operations_eq
  obtain ⟨position, rfl, rfl, rfl⟩ := Position.exists_of_split hops
  exact ⟨position, hpath, hmethod, ⟨{
    diagnostics
    components_eq := erasure.components_eq
    info_eq := erasure.info_eq
    operations_eq := hothers }⟩⟩

namespace Run.Position

variable {run : Run description options content} {position : run.Position}

/-- What is declared for the components is not part of the trace. -/
theorem not_mem_declared {d : Declaration} (hd : d ∈ run.declared.declarations) :
    d.name ∉ position.trace.declared := by
  intro hmem
  have hnone := Declarations.find?_eq_none_of_contains (position.mem_declared_iff.1 hmem).1
  have hkept := position.growth_met.kept
    ((Declarations.find?_eq_some_iff run.sound_emission.names).2 ⟨hd, rfl⟩)
  rw [hnone] at hkept
  cases hkept

/-- If no other operation is in the class, the other classes are those of another name. -/
theorem Stages.filter_classes (stages : position.Stages) :
    content.classes.filter (·.name ≠ position.name) = stages.classes ++ stages.classes' := by
  have hnodup := run.nodup_classes
  rw [stages.classes_eq, List.map_append, List.map_cons, List.nodup_append] at hnodup
  obtain ⟨-, hlater, hearlier⟩ := hnodup
  rw [stages.classes_eq, List.filter_append, List.filter_cons_of_neg (by simp),
    List.filter_eq_self.2, List.filter_eq_self.2]
  · intro c hc
    rw [decide_eq_true_iff]
    rintro hname
    exact (List.nodup_cons.1 hlater).1 (List.mem_map.2 ⟨c, hc, hname⟩)
  · intro c hc
    exact decide_eq_true (hearlier _ (List.mem_map_of_mem hc) _ List.mem_cons_self)

theorem Deletion.components_read (deletion : position.Deletion description') :
    (do Description.components (← Description.shapes description')) = .ok run.components := by
  have hread := run.components_eq
  unfold Description.shapes Description.schemas at hread ⊢
  rwa [deletion.components_eq]

theorem Deletion.infoField_eq (deletion : position.Deletion description') (key default : String) :
    infoField description' key default = infoField description key default := by
  unfold infoField
  rw [deletion.info_eq]

end Run.Position

/-- When an operation is skipped nothing that it left is undone. If nothing of that trace is met
again, the description without the operation is built all the same: the other operations have the
same methods, class by class, and the declarations are the same but for those of the trace. -/
theorem build_without_skipped (h : build description options = .ok content)
    (run : Run description options content) (position : run.Position)
    (hskipped : position.Skipped) (deletion : position.Deletion description')
    (hapart : deletion.Apart) :
    ∃ content', build description' options = .ok content' ∧
      content'.classes = (if position.alone then content.classes.filter (·.name ≠ position.name)
        else content.classes) ∧
      content'.declarations =
        content.declarations.filter (fun d ↦ d.name ∉ position.trace.declared) := by
  obtain ⟨stages⟩ := position.exists_stages hskipped
  obtain ⟨e, hothers, hdraft⟩ := hapart.exec_others stages
  obtain ⟨htitle, hversion⟩ := info_of_build h
  rw [← deletion.infoField_eq] at htitle hversion
  rw [← hapart.groups] at hothers
  refine ⟨_, build_of_stages deletion.components_read run.declared_eq deletion.operations_eq hothers
    htitle hversion, ?_, ?_⟩
  · rw [stages.filter_classes, stages.classes_eq]
    split <;> rfl
  · have hdeclarations := (hapart.final_eq stages).2.draft.declarations
    have hcomponents : ∀ d ∈ run.declared.declarations, d.name ∉ position.trace.declared :=
      fun d ↦ Run.Position.not_mem_declared
    rw [hdraft, ← run.ordered_filter hcomponents]
    exact congrArg Declarations.ordered hdeclarations

/-! ## A pet and its owner -/

/-- An operation on a path, whose response has some schema. -/
def responding (path id : String) (schema : Value) : Value × Value :=
  (.text path, .map [describedBy "get" id "pets" [("responses", .map [("200", .map [("content",
    .map [("application/json", .map [("schema", schema)])])])])]])

/-- An owner whose second property refers back to itself. -/
def ownerOf : Value := .map [("properties", .map [("owner", objectOf "name"),
  ("next", .map [("allOf", .list [referenceTo "Loop", objectOf "x"])])])]

/-- The description of a pet, and of an owner before it, if there is one. -/
def petDescription (owner : List (Value × Value)) : Value :=
  describingWith [("Loop", referenceTo "Loop")] (owner ++ [responding "/b" "pet" (objectOf "y")])

/-- The operation that such a description is read into. -/
def respondingOperation (path id : String) (schema : Schema) : Operation where
  path := .text path
  method := "get"
  tag := "pets"
  id := .text id
  parameters := []
  body := none
  responses :=
    [{ status := "200", content := [("application/json", ⟨some schema⟩)], description := "" }]
  tags := ["pets"]
  summary := ""
  description := ""
  deprecated := false

def petOperation : Operation := respondingOperation "/b" "pet" (objectSchema "y")

def ownerOperation : Operation := respondingOperation "/a" "owner" (.object [
  ⟨"owner", false, objectSchema "name"⟩,
  ⟨"next", false, .allOf [.reference "Loop", objectSchema "x"]⟩] none)

theorem parseAll_petDescription (diagnostics : List Diagnostic) :
    (Operation.parseAll (petDescription [responding "/a" "owner" ownerOf]) {}).run.run diagnostics =
        (.ok [ownerOperation, petOperation], diagnostics) ∧
      (Operation.parseAll (petDescription []) {}).run.run diagnostics =
        (.ok [petOperation], diagnostics) :=
  ⟨rfl, rfl⟩

def loops : Components := [("Loop", .reference "Loop")]

def loopsDeclared : Draft := (exec (declareAll loops loops) (.forComponents loops)).2

/-- The emission from which the class of some operations is filled. -/
def loopsGrouped (ops : List Operation) : Emission where
  draft := { loopsDeclared with registry := (Group.ofOperations ops loopsDeclared.registry).2 }
  operationIds := []
  methods := .forMethods

def ownerMet : Emission := loopsGrouped [ownerOperation, petOperation]

def ownerLeft : Emission := (exec (emit ⟨loops, {}⟩ ownerOperation) ownerMet).2

/-- The emission once the class is filled with the pet alone. -/
def petFilled : Emission :=
  (exec (emitAll ⟨loops, {}⟩ [petOperation]) (loopsGrouped [petOperation])).2

/-- What is computed of the owner: its names meet no other name of the pet, the class of its first
property is all that it leaves declared, its second one is refused, and a content is built. -/
theorem owner_computed :
    (Separate loopsDeclared.registry (loopsDeclared.registry.resolve "pets api").2
        petFilled.draft.registry ∧
      Separate ownerMet.draft.registry ownerLeft.draft.registry petFilled.draft.registry ∧
      (∀ p ∈ petFilled.draft.registry.assigned, p.2 ∉ ["OwnerResponseOwner"]) ∧
      Separate ownerMet.methods ownerLeft.methods petFilled.methods ∧
      ownerLeft.methods.identifier? "pet" = none ∧
      petOperation.id.isIn ownerLeft.operationIds = petOperation.id.isIn ownerMet.operationIds) ∧
    (List.filter (fun d ↦ !ownerMet.draft.declarations.contains d.name)
      ownerLeft.draft.declarations).map (·.name) = ["OwnerResponseOwner"] ∧
    (exec (emit ⟨loops, {}⟩ ownerOperation) ownerMet).1.map (fun _ ↦ ()) =
      .error (.recursiveSchema ["Loop", "Loop"]) ∧
    (build (petDescription [responding "/a" "owner" ownerOf]) {}).toOption.isSome = true := by
  decide +kernel

theorem emit_ownerOperation :
    (exec (emit ⟨loops, {}⟩ ownerOperation) ownerMet).1 =
      .error (.recursiveSchema ["Loop", "Loop"]) := by
  have hfails := owner_computed.2.2.1
  generalize (exec (emit ⟨loops, {}⟩ ownerOperation) ownerMet).1 = result at hfails
  cases result with
  | error fault => rw [Except.error.inj hfails]
  | ok methods => cases hfails

/-- The class of the owner's first property stays declared, and it is all that tells the description
with the owner from the one without it. -/
theorem build_without_owner :
    ∃ (content : Content)
      (run : Run (petDescription [responding "/a" "owner" ownerOf]) {} content)
      (position : run.Position) (deletion : position.Deletion (petDescription [])),
      build (petDescription [responding "/a" "owner" ownerOf]) {} = .ok content ∧
      position.Skipped ∧ deletion.Apart ∧ position.trace.declared = ["OwnerResponseOwner"] ∧
      ∃ content', build (petDescription []) {} = .ok content' ∧
        content'.classes = (if position.alone then content.classes.filter (·.name ≠ position.name)
          else content.classes) ∧
        content'.declarations =
          content.declarations.filter (fun d ↦ d.name ∉ position.trace.declared) := by
  obtain ⟨content, hbuild⟩ := exists_of_isSome owner_computed.2.2.2
  obtain ⟨run⟩ := exists_run hbuild
  obtain ⟨components, declared, operations, diagnostics, final, hcomponents, hdeclared, hoperations,
    hfinal, hdeclarations, hdiagnostics⟩ := run
  obtain rfl : loops = components := Except.ok.inj hcomponents
  obtain rfl : loopsDeclared = declared := congrArg Prod.snd hdeclared
  have hread := hoperations.symm.trans (parseAll_petDescription loopsDeclared.diagnostics).1
  obtain ⟨hoperation, rfl⟩ := Prod.mk.inj hread
  obtain rfl := Except.ok.inj hoperation
  have hclass : ∀ op ∈ [ownerOperation, petOperation], op.rawClass = "pets api" := by decide
  obtain ⟨⟨hgrouped, hemitted, hfresh, hmethods, hunnamed, halike⟩, howner, -⟩ := owner_computed
  let run : Run (petDescription [responding "/a" "owner" ownerOf]) {} content :=
    ⟨loops, loopsDeclared, [ownerOperation, petOperation], loopsDeclared.diagnostics, final,
      hcomponents, hdeclared, hoperations, hfinal, hdeclarations, hdiagnostics⟩
  let position : run.Position := {
    before := [], op := ownerOperation, after := [petOperation]
    earlier := [], name := (loopsDeclared.registry.resolve "pets api").1
    first := [], rest := [petOperation], later := []
    operations_eq := rfl
    groups_eq := Group.ofOperations_of_class hclass (List.cons_ne_nil _ _) }
  let deletion : position.Deletion (petDescription []) := {
    diagnostics := loopsDeclared.diagnostics
    components_eq := rfl
    info_eq := rfl
    operations_eq := (parseAll_petDescription _).2 }
  have hskipped : position.Skipped := ⟨["Loop", "Loop"], emit_ownerOperation⟩
  have howner : position.trace.declared = ["OwnerResponseOwner"] := howner
  have hclears : position.trace.Clears deletion.final.draft.registry deletion.filled.methods := by
    refine ⟨⟨?_, fun {raw name} hname ↦ ?_⟩, hmethods.agrees⟩
    · rintro raw identifier raw' identifier' hraw (hgiven | hgiven)
      · exact hgrouped.agrees hraw hgiven
      · exact hemitted.agrees hraw hgiven
    · rw [howner]
      exact hfresh _ (mem_assigned hname)
  have hapart : deletion.Apart := by
    refine ⟨?_, hclears, fun op hop ↦ ?_, fun g hg ↦ absurd hg List.not_mem_nil⟩
    · exact Group.ofOperations_of_class (fun op hop ↦ hclass op (List.mem_cons_of_mem _ hop))
        (List.cons_ne_nil _ _)
    · obtain rfl := List.mem_singleton.1 hop
      refine ⟨?_, halike⟩
      rintro text name hid ⟨-, hgiven⟩
      cases hid
      cases hunnamed.symm.trans hgiven
  exact ⟨content, run, position, deletion, hbuild, hskipped, hapart, howner,
    build_without_skipped hbuild run position hskipped deletion hapart⟩

/-- The errors, the names of the methods by class, and those of the declarations. -/
def Content.traces (content : Content) : List String × List (List String) × List String :=
  ((content.diagnostics.filter (·.severity = .error)).map (·.logText),
    content.classes.map fun c ↦ c.methods.map (·.name), content.declarations.map (·.name))

/-- Another operation with the identifier of the skipped one is named otherwise without it, and so
are the classes of its types. -/
theorem build_without_namesake :
    ∃ content content',
      build (petDescription [responding "/a" "pet" ownerOf]) {} = .ok content ∧
      build (petDescription []) {} = .ok content' ∧
      content.traces =
        (["schema Loop: unsupported recursive schema: Loop -> Loop",
          "GET /a: operation skipped: unsupported recursive schema: Loop -> Loop"],
        [["petGetB"]], ["Loop", "PetResponseOwner", "PetGetBResponse"]) ∧
      content'.traces = (["schema Loop: unsupported recursive schema: Loop -> Loop"],
        [["pet"]], ["Loop", "PetResponse"]) := by
  have htraces :
      (build (petDescription [responding "/a" "pet" ownerOf]) {}).toOption.map (·.traces) =
        some (["schema Loop: unsupported recursive schema: Loop -> Loop",
          "GET /a: operation skipped: unsupported recursive schema: Loop -> Loop"],
        [["petGetB"]], ["Loop", "PetResponseOwner", "PetGetBResponse"]) ∧
      (build (petDescription []) {}).toOption.map (·.traces) =
        some (["schema Loop: unsupported recursive schema: Loop -> Loop"],
          [["pet"]], ["Loop", "PetResponse"]) := by decide +kernel
  obtain ⟨content, hbuild, hcontent⟩ := exists_of_toOption_map htraces.1
  obtain ⟨content', hbuild', hcontent'⟩ := exists_of_toOption_map htraces.2
  exact ⟨content, content', hbuild, hbuild', hcontent, hcontent'⟩

end ApiClient.Module

import ApiClient.Proofs.Emission.MediaTypes
import ApiClient.Proofs.Grouping
import ApiClient.Proofs.Module.BaseClasses
import ApiClient.Proofs.Module.ModuleNames
import ApiClient.Proofs.Module.Progress
import ApiClient.Proofs.Operation

/-!
# Operations of a module

Every operation of a description ends up in one of two ways. It is skipped, and an error at its
location says so; or the class of its tag has one method for each of its media types, side by side
and in order. A class has no other methods, and the operations stand in it in the order in which
they are described.
-/

namespace ApiClient.Module

open Work

/-- An operation adds nothing to its class, and an error says that it was skipped. -/
structure Skipped (diagnostics : List Diagnostic) (op : Operation) (share : List Method) :
    Prop where
  empty : share = []
  reported : ∃ chain, Diagnostic.error op.location
    ("operation skipped: " ++ Fault.recursionText chain) ∈ diagnostics

/-- An operation adds one method for each participating media type to its class, in order. -/
def Emitted (default : Value) (op : Operation) (share : List Method) : Prop :=
  List.Forall₂ op.MethodFor (op.participatingMediaTypes default) share

/-- The methods are what some operations add to their class, one after the other, and each of them
is either skipped or emitted. -/
def Shared (diagnostics : List Diagnostic) (default : Value) (ops : List Operation)
    (methods : List Method) : Prop :=
  ∃ shares : List (List Method), methods = shares.flatten ∧
    List.Forall₂ (fun op share ↦ Xor (Skipped diagnostics op share) (Emitted default op share))
      ops shares

theorem Skipped.mono {ds ds' : List Diagnostic} (hds : ds ⊆ ds') {op : Operation}
    {share : List Method} (h : Skipped ds op share) : Skipped ds' op share where
  empty := h.empty
  reported := h.reported.imp fun _ hmem ↦ hds hmem

/-- An operation that is emitted has a method. -/
theorem Emitted.ne_nil {default : Value} {op : Operation} {share : List Method}
    (h : Emitted default op share) : share ≠ [] := by
  rintro rfl
  exact op.participatingMediaTypes_ne_nil default (List.forall₂_nil_right_iff.1 h)

theorem xor_of_or {ds : List Diagnostic} {default : Value} {op : Operation} {share : List Method}
    (h : Skipped ds op share ∨ Emitted default op share) :
    Xor (Skipped ds op share) (Emitted default op share) := by
  rcases h with hskipped | hemitted
  · exact .inl ⟨hskipped, fun hemitted ↦ hemitted.ne_nil hskipped.empty⟩
  · exact .inr ⟨hemitted, fun hskipped ↦ hemitted.ne_nil hskipped.empty⟩

theorem shared_nil (ds : List Diagnostic) (default : Value) : Shared ds default [] [] :=
  ⟨[], rfl, .nil⟩

theorem Shared.cons {ds : List Diagnostic} {default : Value} {op : Operation}
    {ops : List Operation} {share methods : List Method}
    (h : Skipped ds op share ∨ Emitted default op share) (hrest : Shared ds default ops methods) :
    Shared ds default (op :: ops) (share ++ methods) := by
  obtain ⟨shares, rfl, hshares⟩ := hrest
  exact ⟨share :: shares, rfl, .cons (xor_of_or h) hshares⟩

/-! ## Emission -/

theorem Emitted.escapeDoc {default : Value} {op : Operation} {share : List Method}
    (h : Emitted default op share) : Emitted default op (share.map escapeMethodDoc) := by
  unfold Emitted
  rw [List.forall₂_map_right_iff]
  exact h.imp fun _ m hm ↦
    ⟨hm.mediaType_eq, hm.path_eq, hm.httpMethod_eq, hm.operationId_eq, hm.carries⟩

variable {setting : Emission.Setting}

theorem skipped_or_emitted {op : Operation} {e e' : Emission} {methods : List Method}
    (h : exec (emitOrSkip setting op) e = (.ok methods, e')) :
    Skipped e'.draft.diagnostics op methods ∨
      Emitted setting.options.defaultContentType op methods := by
  rcases emitOrSkip_cases h with ⟨emitted, hemit, rfl⟩ | ⟨chain, e₁, -, rfl, rfl⟩
  · exact .inr (Emitted.escapeDoc (Emission.methodsFor_of_emit hemit))
  · exact .inl ⟨rfl, chain, List.mem_append_right _ (List.mem_singleton_self _)⟩

/-- The methods of a class are shared by its operations. The errors are those of any later
emission. -/
theorem shared_of_emitAll {ops : List Operation} {e e' : Emission} {methods : List Method}
    (h : exec (emitAll setting ops) e = (.ok methods, e')) {ds : List Diagnostic}
    (hds : e'.draft.diagnostics ⊆ ds) :
    Shared ds setting.options.defaultContentType ops methods := by
  induction ops generalizing e methods with
  | nil =>
    obtain ⟨rfl, -⟩ := exec_pure_eq_ok.1 h
    exact shared_nil ds _
  | cons op ops ih =>
    unfold emitAll at h
    obtain ⟨first, e₁, hfirst, h⟩ := of_exec_bind h
    obtain ⟨rest, e₂, hrest, h⟩ := of_exec_bind h
    obtain ⟨rfl, rfl⟩ := exec_pure_eq_ok.1 h
    -- An error stays while the other operations are emitted.
    have hlater : e₁.draft.diagnostics ⊆ ds :=
      List.Subset.trans ((continues_emitAll ops).of_exec hrest).2.subset hds
    exact .cons ((skipped_or_emitted hfirst).imp_left (·.mono hlater)) (ih hrest)

theorem shared_of_emitClasses {groups : List Group} {e e' : Emission} {classes : List ApiClass}
    (h : exec (emitClasses setting groups) e = (.ok classes, e')) :
    ∀ c ∈ classes, ∃ g ∈ groups, g.name = c.name ∧ Shared e'.draft.diagnostics
      setting.options.defaultContentType g.operations c.methods := by
  induction groups generalizing e classes with
  | nil =>
    obtain ⟨rfl, -⟩ := exec_pure_eq_ok.1 h
    exact fun c hc ↦ absurd hc List.not_mem_nil
  | cons g groups ih =>
    obtain ⟨methods, rest, e₁, rfl, hmethods, hrest⟩ := of_emitClasses_cons h
    have hlater := ((continues_emitClasses groups).of_exec hrest).2.subset
    refine List.forall_mem_cons.2
      ⟨⟨g, List.mem_cons_self, rfl, shared_of_emitAll hmethods hlater⟩, fun c hc ↦ ?_⟩
    obtain ⟨g', hg', hshared⟩ := ih hrest c hc
    exact ⟨g', List.mem_cons_of_mem _ hg', hshared⟩

/-! ## Runs -/

namespace Run

variable {description : Value} {options : Options} {content : Content}

/-- Every operation of the description is accounted for: it is read, it has a class, the methods of
each class are shared by its operations, and no media type takes part in an operation twice. -/
structure SettlesOperations (run : Run description options content) : Prop where
  read : ∃ slots, Operation.slots description = .ok slots ∧
    List.Forall₂ (Operation.ReadFrom description options) slots run.operations
  classes : (content.classes.map (·.name)).Nodup
  placed : ∀ op ∈ run.operations, ∃ c ∈ content.classes, op.isIn run.final.draft.registry c.name
  methods : ∀ c ∈ content.classes, Shared content.diagnostics options.defaultContentType
    (run.operations.filter (·.isIn run.final.draft.registry c.name)) c.methods
  distinct : ∀ op ∈ run.operations, (op.participatingMediaTypes
    options.defaultContentType).Pairwise fun first second ↦ second.same first = false
  count : content.methodCount = (content.classes.flatMap (·.methods)).length

variable (run : Run description options content)

/-- The classes of the operations are settled before any of them is emitted. -/
theorem isIn_final {op : Operation} (hop : op ∈ run.operations) (name : String) :
    op.isIn run.final.draft.registry name = op.isIn run.emission.draft.registry name := by
  obtain ⟨g, -, hin⟩ := run.grouped.covered op hop
  have hassigned := Operation.isIn_iff.1 hin
  have hfinal := run.aging_emitted.registry.assigned hassigned
  unfold Operation.isIn
  rw [hassigned, hfinal]

theorem settlesOperations : run.SettlesOperations where
  read := Operation.slots_of_parseAll run.operations_eq
  classes := run.nodup_classes
  placed op hop := by
    obtain ⟨name, hname⟩ := run.exists_identifier_of_operation hop
    obtain ⟨c, hc, rfl⟩ := List.mem_map.1 ((run.mem_classes_iff name).2 ⟨op, hop, hname⟩)
    exact ⟨c, hc, Operation.isIn_iff.2 hname⟩
  methods c hc := by
    obtain ⟨g, hg, hname, hshared⟩ := shared_of_emitClasses run.exec_emitClasses c hc
    rw [run.grouped.operations g hg, hname] at hshared
    rw [run.diagnostics_eq, List.filter_congr fun op hop ↦ run.isIn_final hop c.name]
    exact hshared
  distinct op _ := op.pairwise_participatingMediaTypes options.defaultContentType
  count := by
    rw [List.length_flatMap, List.sum_eq_foldl, List.foldl_map]
    rfl

end Run

/-- When a content is built, each path and method of the description with an object has one
operation, which is either skipped with an error at its location or has one method for each of its
media types in the class of its tag, next to one another and in order, and each of these carries its
media type unless the operation declares none. The classes have no other methods, and the count of
methods is that of all classes together. -/
theorem operations_skipped_xor_emitted {description : Value} {options : Options} {content : Content}
    (h : build description options = .ok content) :
    ∃ run : Run description options content, run.SettlesOperations := by
  obtain ⟨run⟩ := exists_run h
  exact ⟨run, run.settlesOperations⟩

/-- The content of a media type map without schemas. -/
def contentOf (mediaTypes : List String) : Value :=
  .map [("content", .map (mediaTypes.map fun mediaType ↦ (.text mediaType, .map [])))]

/-- An operation under a method, with an identifier, a tag and other entries. -/
def describedBy (method id tag : String) (entries : List (Value × Value)) : Value × Value :=
  (.text method, .map (("operationId", .text id) :: ("tags", .list [.text tag]) :: entries))

/-- Operations of two tags: one with a body, one with a response, one that is skipped for a
component that refers to itself, and one that declares no media type. -/
def severalOperations : Value := .map [
  ("components", .map [("schemas", .map [("Loop", referenceTo "Loop")])]),
  ("paths", .map [
    ("/pets", .map [
      describedBy "post" "addPet" "pets"
        [("requestBody", contentOf ["application/json", "text/xml"])],
      describedBy "get" "listPets" "pets"
        [("responses", .map [("200", contentOf ["application/json", "text/csv"])])]]),
    ("/loops", .map [
      describedBy "get" "getLoop" "pets" [("parameters", .list [.map [
        ("name", "f"), ("schema", .map [("allOf", .list [referenceTo "Loop", objectOf "x"])])]])]]),
    ("/status", .map [describedBy "get" "getStatus" "status" []])])]

/-- The name of each class, with the names and media types of its methods. -/
def Content.variants (content : Content) : List (String × List (String × String)) :=
  content.classes.map fun c ↦ (c.name, c.methods.map fun m ↦ (m.name, m.mediaType.plain))

/-- Where errors were reported. -/
def Content.errorLocations (content : Content) : List String :=
  (content.diagnostics.filter (·.severity = .error)).map (·.location.plain)

theorem operations_severalOperations :
    ∃ content, build severalOperations {} = .ok content ∧
      content.variants = [
        ("PetsApi", [("listPets", "application/json"), ("listPetsCsv", "text/csv"),
          ("addPet", "application/json"), ("addPetXml", "text/xml")]),
        ("StatusApi", [("getStatus", "application/json")])] ∧
      content.methodCount = 5 ∧
      content.errorLocations = ["schema Loop", "GET /loops"] ∧
      ∃ run : Run severalOperations {} content, run.SettlesOperations := by
  have hvariants : (build severalOperations {}).toOption.map
      (fun content ↦ (content.variants, content.methodCount, content.errorLocations)) = some ([
        ("PetsApi", [("listPets", "application/json"), ("listPetsCsv", "text/csv"),
          ("addPet", "application/json"), ("addPetXml", "text/xml")]),
        ("StatusApi", [("getStatus", "application/json")])],
        5, ["schema Loop", "GET /loops"]) := by decide +kernel
  obtain ⟨content, hbuild, hcontent⟩ := exists_of_toOption_map hvariants
  obtain ⟨hclasses, hcounts⟩ := Prod.mk.injEq .. ▸ hcontent
  obtain ⟨hcount, herrors⟩ := Prod.mk.injEq .. ▸ hcounts
  exact ⟨content, hbuild, hclasses, hcount, herrors, operations_skipped_xor_emitted hbuild⟩

end ApiClient.Module

import ApiClient.Proofs.Emission.Documentation
import ApiClient.Proofs.Module.Run

/-!
# Modules of a description in other words

What a description says in prose goes into the documentation of methods and nowhere else. Its
operations are read in other words, grouped under the same classes and emitted as the same methods.
An operation whose identifier cannot be a key would end the build, so the identifiers are the same
as well.
-/

namespace ApiClient

/-- Groups of one name, whose operations are retold. -/
structure Group.Retold (g g' : Group) : Prop where
  name : g'.name = g.name
  operations : List.Forall₂ Operation.Retold g.operations g'.operations

namespace Operation.Retold

variable {op op' : Operation}

/-- Operations whose identifiers can be keys are the same without documentation. -/
theorem bare_eq (h : Retold op op') (hid : op.id.hashable = true) : op'.bare = op.bare := by
  have hsame : op'.id = op.id := h.id.eq_of_hashable hid
  rw [← h.rest, ← hsame]
  rfl

theorem tag_eq (h : Retold op op') : op'.tag = op.tag :=
  (congrArg Operation.tag h.rest :)

end Operation.Retold

namespace Group

theorem rel_add {gs gs' : List Group} (h : List.Forall₂ Retold gs gs') (name : String)
    {op op' : Operation} (hop : op.Retold op') :
    List.Forall₂ Retold (add gs name op) (add gs' name op') := by
  have hany : gs'.any (·.name = name) = gs.any (·.name = name) := by
    induction h with
    | nil => rfl
    | cons hfirst _ ih => rw [List.any_cons, List.any_cons, hfirst.name, ih]
  unfold add
  rw [hany]
  split
  · rw [List.forall₂_map_left_iff, List.forall₂_map_right_iff]
    refine h.imp fun g g' hg ↦ ?_
    rw [hg.name]
    split
    · exact ⟨rfl, List.rel_append hg.operations (.cons hop .nil)⟩
    · exact hg
  · exact List.rel_append h (.cons ⟨rfl, .cons hop .nil⟩ .nil)

/-- Operations are grouped by their tags, whatever their documentation. -/
theorem rel_ofOperations {ops ops' : List Operation} (h : List.Forall₂ Operation.Retold ops ops')
    (registry : Name.Registry) :
    List.Forall₂ Retold (ofOperations ops registry).1 (ofOperations ops' registry).1 ∧
      (ofOperations ops' registry).2 = (ofOperations ops registry).2 := by
  let related (grouped grouped' : List Group × Name.Registry) : Prop :=
    List.Forall₂ Retold grouped.1 grouped'.1 ∧ grouped'.2 = grouped.2
  refine List.rel_foldl (P := related) ?_ ⟨.nil, rfl⟩ h
  rintro ⟨gs, names⟩ ⟨gs', _⟩ ⟨hgs, rfl⟩ op op' hop
  simp only [hop.tag_eq]
  exact ⟨rel_add hgs _ hop, rfl⟩

end Group

namespace Module

open Work

variable {setting : Emission.Setting}

/-- A class whose methods have no documentation. -/
def ApiClass.undocumented (c : ApiClass) : ApiClass :=
  { c with methods := c.methods.map Method.undocumented }

/-- The identifier of an operation that is emitted or skipped can be a key. -/
theorem hashable_of_emitOrSkip {op : Operation} {e e' : Emission} {ms : List Method}
    (h : exec (emitOrSkip setting op) e = (.ok ms, e')) : op.id.hashable = true := by
  by_contra hid
  obtain ⟨fault, e₁, hfault, hother⟩ :=
    Emission.exec_emit_of_unhashable setting (Bool.not_eq_true _ ▸ hid) e
  rcases emitOrSkip_cases h with ⟨emitted, hemit, -⟩ | ⟨chain, e₂, hemit, -, -⟩
  · cases hfault.symm.trans hemit
  · cases hfault.symm.trans hemit
    exact hother chain rfl

/-- What an emission makes of an operation, by what it makes of the bare one. -/
theorem exec_emitOrSkip (op : Operation) (e : Emission) :
    exec (emitOrSkip setting op) e =
      ((exec (emitOrSkip setting op.bare) e).1.map
          (List.map (·.withDoc (op.doc.map escapeDoc))), (exec (emitOrSkip setting op.bare) e).2) := by
  unfold emitOrSkip
  rw [exec_catch, exec_catch, exec_map, exec_map, Emission.emit_eq op, exec_map]
  rcases exec (Emission.emit setting op.bare) e with ⟨fault | ms, t⟩
  · cases fault <;> rfl
  · simp only [Except.map, List.map_map]
    rfl

theorem concur_emitOrSkip {op op' : Operation} (h : op.Retold op') :
    Work.Concur (fun ms ms' ↦ ms'.map Method.undocumented = ms.map Method.undocumented)
      (emitOrSkip setting op) (emitOrSkip setting op') where
  rel {e ms t ms' u} hx hy := by
    have hbare := h.bare_eq (hashable_of_emitOrSkip hx)
    rw [exec_emitOrSkip] at hx hy
    rw [hbare] at hy
    rcases hrun : exec (emitOrSkip setting op.bare) e with ⟨fault | bare, e'⟩
    · rw [hrun] at hx
      cases hx
    · rw [hrun] at hx hy
      cases hx
      cases hy
      refine ⟨?_, rfl⟩
      rw [List.map_map, List.map_map]
      rfl

theorem concur_emitAll {ops ops' : List Operation} (h : List.Forall₂ Operation.Retold ops ops') :
    Work.Concur (fun ms ms' ↦ ms'.map Method.undocumented = ms.map Method.undocumented)
      (emitAll setting ops) (emitAll setting ops') := by
  induction h with
  | nil => exact .pure rfl
  | cons hop _ ih =>
    refine (concur_emitOrSkip hop).bind fun ms ms' hfirst ↦ ih.bind fun rest rest' hrest ↦ .pure ?_
    rw [List.map_append, List.map_append, hfirst, hrest]

theorem concur_emitClasses {gs gs' : List Group} (h : List.Forall₂ Group.Retold gs gs') :
    Work.Concur (fun cs cs' ↦ cs'.map ApiClass.undocumented = cs.map ApiClass.undocumented)
      (emitClasses setting gs) (emitClasses setting gs') := by
  induction h with
  | nil => exact .pure rfl
  | @cons g g' gs gs' hg _ ih =>
    have hclass : Work.Concur (fun c c' ↦ c'.undocumented = c.undocumented)
        (emitClass setting g) (emitClass setting g') := by
      refine (Work.Concur.refl _).bind fun _ _ _ ↦ ?_
      refine (concur_emitAll hg.operations).bind fun ms ms' hmethods ↦ .pure ?_
      unfold ApiClass.undocumented
      rw [hg.name, hmethods]
    refine hclass.bind fun c c' hfirst ↦ ih.bind fun rest rest' hrest ↦ .pure ?_
    rw [List.map_cons, List.map_cons, hfirst, hrest]

/-- Two descriptions that differ in their documentation alone, and not in what is shown of it, are
built into the same declarations, the same classes and the same remarks. Their methods differ in no
more than the lines that document them. -/
theorem build_reworded {description description' : Value} {options : Options}
    {content content' : Content} (h : Description.Rewording description description')
    (hbuild : build description options = .ok content)
    (hbuild' : build description' options = .ok content') :
    content'.declarations = content.declarations ∧
      content'.classes.map ApiClass.undocumented = content.classes.map ApiClass.undocumented ∧
      content'.diagnostics = content.diagnostics := by
  obtain ⟨run⟩ := exists_run hbuild
  obtain ⟨run'⟩ := exists_run hbuild'
  have hcomponents : run'.components = run.components := by
    have hconcur := (Description.concur_shapes h.reworded).bind
      (f := Description.components) (g := Description.components) (S := Eq) fun shapes _ hshapes ↦
        hshapes ▸ .refl _
    exact (hconcur.rel run.components_eq run'.components_eq).symm
  have hdeclared : run'.declared = run.declared := by
    have hsame := run'.declared_eq
    rw [hcomponents, run.declared_eq] at hsame
    exact (Prod.mk.inj hsame).2.symm
  have hread := run'.operations_eq
  rw [hdeclared] at hread
  obtain ⟨hoperations, hdiagnostics⟩ := (Operation.concur_parseAll h).rel run.operations_eq hread
  obtain ⟨hgroups, hregistry⟩ := Group.rel_ofOperations hoperations run.declared.registry
  have hemitted := run'.final_eq
  rw [hcomponents, hdeclared, hregistry, hdiagnostics] at hemitted
  obtain ⟨hclasses, hfinal⟩ := (concur_emitClasses hgroups).rel run.final_eq hemitted
  refine ⟨?_, hclasses, ?_⟩
  · rw [run.declarations_eq, run'.declarations_eq, hfinal]
  · rw [run.diagnostics_eq, run'.diagnostics_eq, hfinal]

/-! ## Pets in other words -/

/-- The lines that document the methods, class by class. -/
def Content.docs (content : Content) : List (List (List String)) :=
  content.classes.map fun c ↦ c.methods.map (·.doc)

/-- A list of pets, whose limit and response are described among the components. -/
def petsTold (title summary limit response : String) : Value := .map [
  ("info", .map [("title", .text title)]),
  ("components", .map [
    ("parameters", .map [("Limit", .map [("name", "limit"), ("in", "query"),
      ("description", .text limit), ("schema", .map [("type", "integer")])])]),
    ("responses", .map [("Pets", .map [("description", .text response), ("content", .map [
      ("application/json", .map [("schema", .map [("type", "string")])])])])])]),
  ("paths", .map [("/pets", .map [("get", .map [
    ("operationId", "listPets"), ("tags", .list [.text "pets"]), ("summary", .text summary),
    ("parameters", .list [.map [("$ref", "#/components/parameters/Limit")]]),
    ("responses", .map [("200", .map [("$ref", "#/components/responses/Pets")])])])])])]

theorem rewording_petsTold (title summary limit response title' summary' limit' response' : String) :
    Description.Rewording (petsTold title summary limit response)
      (petsTold title' summary' limit' response') := by
  refine ⟨.map ⟨.cons (.part _ ?info) (.cons (.part _ ?components) (.cons (.part _ ?paths) .nil)),
    rfl, fun _ ↦ rfl⟩, rfl⟩
  case info => exact .map ⟨.cons (.prose (by decide) _ _) .nil, rfl, fun _ ↦ rfl⟩
  case components =>
    refine .map ⟨.cons (.part _ (.map ⟨.cons (.part _ ?limit) .nil, rfl, fun _ ↦ rfl⟩))
      (.cons (.part _ (.map ⟨.cons (.part _ ?pets) .nil, rfl, fun _ ↦ rfl⟩)) .nil),
      rfl, fun _ ↦ rfl⟩
    case limit =>
      exact .map ⟨.cons (.refl _) (.cons (.refl _) (.cons (.prose (by decide) _ _)
        (.cons (.refl _) .nil))), rfl, fun _ ↦ rfl⟩
    case pets =>
      exact .map ⟨.cons (.prose (by decide) _ _) (.cons (.refl _) .nil), rfl, fun _ ↦ rfl⟩
  case paths =>
    refine .map ⟨.cons (.part _ (.map ⟨.cons (.part _ ?get) .nil, rfl, fun _ ↦ rfl⟩)) .nil,
      rfl, fun _ ↦ rfl⟩
    exact .map ⟨.cons (.refl _) (.cons (.refl _) (.cons (.prose (by decide) _ _)
      (.cons (.refl _) (.cons (.refl _) .nil)))), rfl, fun _ ↦ rfl⟩

theorem build_petsTold :
    ∃ content content', build (petsTold "Pets" "List pets" "At most" "The pets") {} = .ok content ∧
      build (petsTold "Animals" "All the pets" "How many" "A list") {} = .ok content' ∧
      content.docs = [[["List pets"]]] ∧ content'.docs = [[["All the pets"]]] ∧
      content'.declarations = content.declarations ∧
      content'.classes.map ApiClass.undocumented = content.classes.map ApiClass.undocumented ∧
      content'.diagnostics = content.diagnostics := by
  have hdocs : (build (petsTold "Pets" "List pets" "At most" "The pets") {}).toOption.map (·.docs) =
      some [[["List pets"]]] := by decide +kernel
  have hdocs' : (build (petsTold "Animals" "All the pets" "How many" "A list") {}).toOption.map
      (·.docs) = some [[["All the pets"]]] := by decide +kernel
  obtain ⟨content, hbuild, hcontent⟩ := exists_of_toOption_map hdocs
  obtain ⟨content', hbuild', hcontent'⟩ := exists_of_toOption_map hdocs'
  exact ⟨content, content', hbuild, hbuild', hcontent, hcontent',
    build_reworded (rewording_petsTold ..) hbuild hbuild'⟩

/-! ## What is shown as it stands -/

/-- A path item under the key `name`, inside the paths that its own parameter refers to. -/
def namedPath (summary : String) : Value := .map [("paths", .map [
  ("name", .map [("get", .map [("operationId", "pets"), ("tags", .list [.text "pets"]),
    ("summary", .text summary), ("parameters", .list [.map [("$ref", "#/paths")]])])]),
  ("in", "cookie")])]

/-- The remark on the parameter that is named by the path item. -/
def namedPathMessage (summary : String) : String :=
  "cookie parameter \x7b'get': \x7b'operationId': 'pets', 'tags': ['pets'], 'summary': " ++
    quote summary ++ ", 'parameters': [\x7b'$ref': '#/paths'\x7d]\x7d\x7d is not supported; skipped"

/-- A schema that is its own choice, and also a parameter. -/
def ownChoice (description : String) : Value := .map [
  ("components", .map [("schemas", .map [("Loop", .knot 0 (.map [("name", "id"), ("in", "query"),
    ("description", .text description), ("type", "string"), ("enum", .list [.again 0])]))])]),
  ("paths", .map [("/pets", .map [("get", .map [("operationId", "pets"),
    ("tags", .list [.text "pets"]),
    ("parameters", .list [.map [("$ref", "#/components/schemas/Loop")]])])])])]

/-- The type that the schema is declared as. -/
def ownChoiceHint (description : String) : String :=
  "Literal[\x7b'name': 'id', 'in': 'query', 'description': " ++ quote description ++
    ", 'type': 'string', 'enum': [\x7b...\x7d]\x7d]"

/-- The messages of the remarks. -/
def Content.messages (content : Content) : List String := content.diagnostics.map (·.message)

/-- The annotations of the aliases. -/
def Content.aliased (content : Content) : List String :=
  content.declarations.filterMap fun
    | .synonym _ hint => some hint
    | .record _ => none

theorem messages_namedPath : ∃ content content',
    build (namedPath "one") {} = .ok content ∧ build (namedPath "two") {} = .ok content' ∧
      content.docs = [[["one"]]] ∧ content'.docs = [[["two"]]] ∧
      content.messages.head? = some (namedPathMessage "one") ∧
      content'.messages.head? = some (namedPathMessage "two") := by
  have hshown : (build (namedPath "one") {}).toOption.map (fun c ↦ (c.docs, c.messages.head?)) =
      some ([[["one"]]], some (namedPathMessage "one")) := by decide +kernel
  have hshown' : (build (namedPath "two") {}).toOption.map (fun c ↦ (c.docs, c.messages.head?)) =
      some ([[["two"]]], some (namedPathMessage "two")) := by decide +kernel
  obtain ⟨content, hbuild, hcontent⟩ := exists_of_toOption_map hshown
  obtain ⟨content', hbuild', hcontent'⟩ := exists_of_toOption_map hshown'
  obtain ⟨hdocs, hmessage⟩ := Prod.mk.inj hcontent
  obtain ⟨hdocs', hmessage'⟩ := Prod.mk.inj hcontent'
  exact ⟨content, content', hbuild, hbuild', hdocs, hdocs', hmessage, hmessage'⟩

theorem aliased_ownChoice : ∃ content content',
    build (ownChoice "one") {} = .ok content ∧ build (ownChoice "two") {} = .ok content' ∧
      content.aliased = [ownChoiceHint "one"] ∧ content'.aliased = [ownChoiceHint "two"] := by
  have hshown : (build (ownChoice "one") {}).toOption.map (·.aliased) =
      some [ownChoiceHint "one"] := by decide +kernel
  have hshown' : (build (ownChoice "two") {}).toOption.map (·.aliased) =
      some [ownChoiceHint "two"] := by decide +kernel
  obtain ⟨content, hbuild, hhint⟩ := exists_of_toOption_map hshown
  obtain ⟨content', hbuild', hhint'⟩ := exists_of_toOption_map hshown'
  exact ⟨content, content', hbuild, hbuild', hhint, hhint'⟩

/-- A summary inside the name of a parameter that is skipped is in the remark on it, and a
description inside a choice is in a declaration. -/
theorem build_shown :
    (∃ content content', build (namedPath "one") {} = .ok content ∧
      build (namedPath "two") {} = .ok content' ∧
      content.docs = [[["one"]]] ∧ content'.docs = [[["two"]]] ∧
      content'.diagnostics ≠ content.diagnostics) ∧
    ∃ content content', build (ownChoice "one") {} = .ok content ∧
      build (ownChoice "two") {} = .ok content' ∧
      content'.declarations ≠ content.declarations := by
  refine ⟨?_, ?_⟩
  · obtain ⟨content, content', hbuild, hbuild', hdocs, hdocs', hmessage, hmessage'⟩ :=
      messages_namedPath
    refine ⟨content, content', hbuild, hbuild', hdocs, hdocs', fun hsame ↦ ?_⟩
    have hmessages : content'.messages.head? = content.messages.head? := by
      unfold Content.messages
      rw [hsame]
    rw [hmessage, hmessage'] at hmessages
    exact absurd (Option.some.inj hmessages) (by decide)
  · obtain ⟨content, content', hbuild, hbuild', hhint, hhint'⟩ := aliased_ownChoice
    refine ⟨content, content', hbuild, hbuild', fun hsame ↦ ?_⟩
    have hhints : content'.aliased = content.aliased := by
      unfold Content.aliased
      rw [hsame]
    rw [hhint, hhint'] at hhints
    exact absurd (List.cons.inj hhints).1 (by decide)

end Module

end ApiClient

import ApiClient.Proofs.Module.BaseClasses
import ApiClient.Proofs.Module.ModuleNames
import ApiClient.Proofs.Name.Style

/-!
# Names that the support code binds

The support code that is pasted into a module binds names at the module's top level. Almost all of
them are reserved, so nothing that is declared has such a name. Three helpers are not reserved. A
class of operations never has the name of a helper, since its name ends with the word that is
appended to its tag. A declaration has it just if the token of its raw name is the helper's name and
no other raw name came first.
-/

namespace ApiClient.Module

/-! ## Bound names -/

/-- The runs of word characters in a line. -/
def wordsOf (line : List Char) : List String :=
  ((line.splitOnP fun c ↦ !Name.isWord c).filter (!·.isEmpty)).map String.ofList

/-- The names that a statement binds, read off its first line: what is imported, defined or
assigned. A line that does not begin with a word continues a statement or is none. -/
def namesBoundBy (line : List Char) : List String :=
  if line.head?.all (!Name.isWord ·) then []
  else
    match wordsOf line with
    | "import" :: names => names
    | "from" :: words => (words.dropWhile (· ≠ "import")).drop 1
    | "def" :: name :: _ | "class" :: name :: _ => [name]
    | name :: _ => if (name.toList ++ [' ', '=', ' ']).isPrefixOf line then [name] else []
    | [] => []

def boundNames (lines : List String) : List String := lines.flatMap (namesBoundBy ·.toList)

theorem boundNames_cons (line : List Char) (lines : List String) :
    boundNames (String.ofList line :: lines) = namesBoundBy line ++ boundNames lines := by
  rw [boundNames, List.flatMap_cons, String.toList_ofList, boundNames]

/-- The names that are listed for the support code are those that its lines bind. -/
theorem boundNames_supportLines : boundNames supportLines = supportBindings := by
  unfold supportLines
  -- The characters of a line are computed where it is unified with a list of characters.
  repeat rw [boundNames_cons]
  decide +kernel

/-- The names that the support code binds although something else may be given them. -/
def unguardedNames : List String := (boundNames supportLines).filter (· ∉ Name.reserved)

theorem unguardedNames_eq : unguardedNames = ["_URI_SAFE", "_REDACTED_HEADERS", "_stringify"] := by
  rw [unguardedNames, boundNames_supportLines]
  decide +kernel

theorem mem_unguardedNames {name : String} :
    name ∈ unguardedNames ↔ name ∈ boundNames supportLines ∧ name ∉ Name.reserved := by
  rw [unguardedNames, List.mem_filter, decide_eq_true_eq]

theorem exists_last_of_mem_unguardedNames {name : String} (h : name ∈ unguardedNames) :
    ∃ c ∈ ['E', 'S', 'y'], name.toList.getLast? = some c := by
  rw [unguardedNames_eq] at h
  simp only [List.mem_cons, List.not_mem_nil, or_false] at h
  rcases h with rfl | rfl | rfl
  · exact ⟨'E', by decide, by decide⟩
  · exact ⟨'S', by decide, by decide⟩
  · exact ⟨'y', by decide, by decide⟩

/-- The word after a tag shows at the end of the token. -/
theorem getLast?_token_rawClass (op : Operation) :
    (Name.token op.rawClass).toList.getLast? = some 'i' := by
  have hword : Name.titled false "api".toList = ['A', 'p', 'i'] := by decide
  obtain ⟨front, htoken⟩ :=
    Name.suffix_token_append_blank op.tag.plain "api" (by rw [hword]; simp)
  have hraw : op.rawClass = op.tag.plain ++ " " ++ "api" := by
    rw [String.append_assoc]
    rfl
  rw [hraw, ← htoken, hword, List.getLast?_append]
  rfl

namespace Run

variable {description : Value} {options : Options} {content : Content}
  (run : Run description options content)

/-- Which names at the top level of the module are bound by the support code as well. -/
structure SettlesBindings (run : Run description options content) : Prop where
  guarded : ∀ name ∈ boundNames supportLines, name ∈ Name.reserved → name ∉ content.topLevelNames
  classes : ∀ name ∈ boundNames supportLines, name ∉ content.classes.map (·.name)
  shared : ∀ name ∈ unguardedNames, name ∈ content.topLevelNames ↔
    ∃ raw, run.Takes raw ∧ Name.token raw = name ∧
      run.final.draft.registry.identifier? raw = some name
  components : ∀ raw ∈ run.components.map (·.1), Name.token raw ∈ unguardedNames →
    Name.token raw ∈ content.topLevelNames
  all : content.topLevelNames.Disjoint (boundNames supportLines) ↔
    ∀ raw, run.Takes raw → Name.token raw ∈ unguardedNames →
      run.final.draft.registry.identifier? raw ≠ some (Name.token raw)

/-! ## Identifiers that are bound -/

/-- A helper's name is not made by a suffix. -/
theorem token_eq_of_mem_unguardedNames {raw name : String}
    (h : run.final.draft.registry.identifier? raw = some name) (hname : name ∈ unguardedNames) :
    Name.token raw = name := by
  obtain ⟨k, hk⟩ :=
    run.extends_final.styled (Name.Registry.identifier?_new _ _ raw) h
  obtain ⟨c, hc, hlast⟩ := exists_last_of_mem_unguardedNames hname
  have hdigit : ∀ c ∈ ['E', 'S', 'y'], c.isDigit = false := by simp
  exact Name.candidate_eq_of_suffixed hk.symm hlast (hdigit c hc)

theorem mem_unguardedNames_of_topLevelName (run : Run description options content)
    {name : String} (h : name ∈ content.topLevelNames) (hbound : name ∈ boundNames supportLines) :
    name ∈ unguardedNames := by
  obtain ⟨raw, hraw⟩ := run.exists_identifier_of_topLevelName h
  exact mem_unguardedNames.2 ⟨hbound, run.not_mem_reserved hraw⟩

theorem not_mem_classes_of_bound (run : Run description options content) {name : String}
    (h : name ∈ boundNames supportLines) : name ∉ content.classes.map (·.name) := by
  intro hclass
  have hunguarded := run.mem_unguardedNames_of_topLevelName (List.mem_append_right _ hclass) h
  obtain ⟨op, -, hop⟩ := (run.mem_classes_iff name).1 hclass
  obtain ⟨c, hc, hlast⟩ := exists_last_of_mem_unguardedNames hunguarded
  have htoken : Name.token op.rawClass = name := run.token_eq_of_mem_unguardedNames hop hunguarded
  rw [← htoken, getLast?_token_rawClass] at hlast
  have hother : 'i' ∉ ['E', 'S', 'y'] := by decide
  exact hother (Option.some.inj hlast ▸ hc)

/-- Something at the top level has a helper's name just if a raw name that is taken has it. -/
theorem mem_topLevelNames_iff {name : String} (h : name ∈ unguardedNames) :
    name ∈ content.topLevelNames ↔ ∃ raw, run.Takes raw ∧ Name.token raw = name ∧
      run.final.draft.registry.identifier? raw = some name := by
  have hbound := (mem_unguardedNames.1 h).1
  constructor
  · intro hname
    have hdeclaration : name ∈ content.declarations.map (·.name) :=
      (List.mem_append.1 hname).resolve_right (run.not_mem_classes_of_bound hbound)
    obtain ⟨raw, hraw⟩ := run.exists_identifier_of_declaration hdeclaration
    have htakes : run.Takes raw :=
      (run.find?_isSome_iff_takes hraw).1 ((run.mem_declarations_iff name).1 hdeclaration)
    exact ⟨raw, htakes, run.token_eq_of_mem_unguardedNames hraw h, hraw⟩
  · rintro ⟨raw, htakes, -, hraw⟩
    have hdeclared := (run.find?_isSome_iff_takes hraw).2 htakes
    exact List.mem_append_left _ ((run.mem_declarations_iff name).2 hdeclared)

/-- Component names come first: the first one with a helper's name as its token is given it. -/
theorem token_mem_topLevelNames {raw : String} (hraw : raw ∈ run.components.map (·.1))
    (h : Name.token raw ∈ unguardedNames) : Name.token raw ∈ content.topLevelNames := by
  have htaken := Name.Registry.style_mem_taken_resolveAll Name.reserved Name.token hraw
  rcases Name.Registry.mem_taken_resolveAll htaken with hreserved | ⟨raw', hmem, hassigned⟩
  · exact absurd hreserved (mem_unguardedNames.1 h).2
  · have hfinal : run.final.draft.registry.identifier? raw' = some (Name.token raw) :=
      run.aging_final.registry.assigned hassigned
    exact (run.mem_topLevelNames_iff h).2
      ⟨raw', .inl hmem, run.token_eq_of_mem_unguardedNames hfinal h, hfinal⟩

theorem settlesBindings : run.SettlesBindings where
  guarded name hbound hreserved hname :=
    (mem_unguardedNames.1 (run.mem_unguardedNames_of_topLevelName hname hbound)).2 hreserved
  classes _ := run.not_mem_classes_of_bound
  shared _ := run.mem_topLevelNames_iff
  components _ := run.token_mem_topLevelNames
  all := by
    constructor
    · intro hdisjoint raw htakes hunguarded hraw
      exact hdisjoint ((run.mem_topLevelNames_iff hunguarded).2 ⟨raw, htakes, rfl, hraw⟩)
        (mem_unguardedNames.1 hunguarded).1
    · intro hnone name hname hbound
      have hunguarded := run.mem_unguardedNames_of_topLevelName hname hbound
      obtain ⟨raw, htakes, rfl, hraw⟩ := (run.mem_topLevelNames_iff hunguarded).1 hname
      exact hnone raw htakes hunguarded hraw

end Run

/-- When a content is built, no name that the support code binds and that is reserved is the name
of a declaration or a class, and no class has any name that the support code binds. A declaration
has the name of an unguarded helper just if that is the identifier, without a suffix, of the raw
name of a component or of a record. It is whenever the token of some component's name is the
helper's name. So the names at the top level are not bound by the support code just if no such raw
name is given the helper's name. -/
theorem boundNames_disjoint_iff {description : Value} {options : Options} {content : Content}
    (h : build description options = .ok content) :
    ∃ run : Run description options content, run.SettlesBindings := by
  obtain ⟨run⟩ := exists_run h
  exact ⟨run, run.settlesBindings⟩

/-- A description of one component, which is a record. -/
def recordNamed (name : String) : Value := describing [(.text name, objectOf "a")]

theorem boundNames_apiRequest :
    ∃ content, build (recordNamed "ApiRequest") { inlineSupport := true } = .ok content ∧
      content.inlineSupport = true ∧ content.topLevelNames = ["ApiRequest_1"] ∧
      ∃ run : Run (recordNamed "ApiRequest") { inlineSupport := true } content,
        run.SettlesBindings := by
  have hnames : (build (recordNamed "ApiRequest") { inlineSupport := true }).toOption.map
      (fun content ↦ (content.inlineSupport, content.topLevelNames)) =
        some (true, ["ApiRequest_1"]) := by decide +kernel
  obtain ⟨content, hbuild, hcontent⟩ := exists_of_toOption_map hnames
  obtain ⟨hinline, hname⟩ := Prod.mk.injEq .. ▸ hcontent
  exact ⟨content, hbuild, hinline, hname, boundNames_disjoint_iff hbuild⟩

/-- A component is declared under the name of the function that writes parameters. -/
theorem boundNames_stringify :
    ∃ content, build (recordNamed "_stringify") { inlineSupport := true } = .ok content ∧
      content.inlineSupport = true ∧ content.topLevelNames = ["_stringify"] ∧
      "_stringify" ∈ boundNames supportLines ∧
      ¬ content.topLevelNames.Disjoint (boundNames supportLines) := by
  have hnames : (build (recordNamed "_stringify") { inlineSupport := true }).toOption.map
      (fun content ↦ (content.inlineSupport, content.topLevelNames)) =
        some (true, ["_stringify"]) := by decide +kernel
  obtain ⟨content, hbuild, hcontent⟩ := exists_of_toOption_map hnames
  obtain ⟨hinline, hname⟩ := Prod.mk.injEq .. ▸ hcontent
  have hbound : "_stringify" ∈ boundNames supportLines := by
    rw [boundNames_supportLines]
    decide
  refine ⟨content, hbuild, hinline, hname, hbound, fun hdisjoint ↦ hdisjoint ?_ hbound⟩
  rw [hname]
  exact List.mem_singleton_self _

end ApiClient.Module

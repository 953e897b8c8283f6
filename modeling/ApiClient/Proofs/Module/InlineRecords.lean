import ApiClient.Proofs.Draft.Records
import ApiClient.Proofs.Module.Sites

/-!
# Inline records of a module

A record that is rendered without a name of its own is declared under the identifier of its raw
name. Two inline records share a declaration just if their raw names are the same, and then the
class is the one of the rendering that came first. So all inline records are declared with their
fields just if those under one raw name have the same fields and neither an alias nor another class
has taken one of their names.
-/

namespace ApiClient

open Work Draft Drafting

/-- A class has the fields of a record and inherits none. -/
structure RecordClass.MatchesFields (c : RecordClass) (fields : List (Field TypeExpr)) : Prop where
  bases : c.bases = []
  keys : ∀ key, key ∈ c.fields.map Field.key ↔ key ∈ keysOf fields

namespace Module

/-- The declaration under a name is a class with the fields of a record. -/
def Content.DeclaresRecord (content : Content) (name : String) (fields : List (Field TypeExpr)) :
    Prop :=
  ∃ c : RecordClass, Declarations.find? content.declarations name = some (.record c) ∧
    c.MatchesFields fields

namespace Run

variable {description : Value} {options : Options} {content : Content}

/-- A rendering in the run of a record with some fields that has no name of its own, and the
annotation that it returns. -/
structure InlineRecord (run : Run description options content) (r : Rendering)
    (fields : List (Field TypeExpr)) (hint : String) : Prop where
  renders : run.RendersInline r
  shape : ∃ extra, r.type.collapse = .record fields extra
  nonempty : fields ≠ []
  returns : (exec (r.work run.components) r.draft).1 = .ok hint

/-- No alias has taken a name, and every class that the run declares under the raw name has the
fields of a record. -/
structure Undisputed (run : Run description options content) (raw name : String)
    (fields : List (Field TypeExpr)) : Prop where
  unaliased : ∀ text, Declarations.find? content.declarations name ≠ some (.synonym name text)
  unanimous : ∀ r c, run.Renders r → r.raw = raw → r.Declares run.components c →
    c.MatchesFields fields

variable {run : Run description options content} {r r' : Rendering}
  {fields fields' : List (Field TypeExpr)} {hint hint' : String}

theorem find?_declarations (run : Run description options content) (name : String) :
    Declarations.find? content.declarations name = run.final.draft.declarations.find? name := by
  rw [run.declarations_eq]
  exact Declarations.find?_ordered run.aging_final.sound.names name

theorem opens_of_shape (components : Components)
    (hshape : ∃ extra, r.type.collapse = .record fields extra) (hnonempty : fields ≠ []) :
    ∃ extra, Rendering.Opens components r r.draft fields [] extra := by
  obtain ⟨extra, hshape⟩ := hshape
  cases fields with
  | nil => exact absurd rfl hnonempty
  | cons f fields => exact ⟨extra, .record hshape⟩

/-- The annotation of an inline record is the identifier of its raw name, and it is declared. -/
theorem InlineRecord.named (h : run.InlineRecord r fields hint) :
    run.final.draft.registry.identifier? r.raw = some hint ∧
      ∃ x, run.final.draft.declarations.find? hint = some x := by
  obtain ⟨hsound, hafter⟩ := run.aging_of_renders h.renders.renders
  obtain ⟨extra, hopens⟩ := opens_of_shape run.components h.shape h.nonempty
  have hexec : exec (r.work run.components) r.draft = (.ok hint, r.after run.components) :=
    Prod.ext h.returns rfl
  obtain ⟨hraw, hsome⟩ := hopens.of_hint hsound hexec
  refine ⟨hafter.registry.assigned hraw, ?_⟩
  obtain ⟨x, hx⟩ := Option.isSome_iff_exists.1 hsome
  rcases hafter.kept hx with hkept | ⟨text, hkept⟩
  · exact ⟨x, hkept⟩
  · exact ⟨_, hkept⟩

/-- Two inline records have one annotation just if they have one raw name. -/
theorem InlineRecord.hint_eq_iff (h : run.InlineRecord r fields hint)
    (h' : run.InlineRecord r' fields' hint') : hint = hint' ↔ r.raw = r'.raw := by
  have hraw := h.named.1
  have hraw' := h'.named.1
  constructor
  · intro hsame
    subst hsame
    exact run.aging_final.sound.registry.injective hraw hraw'
  · intro hsame
    rw [hsame] at hraw
    exact Option.some.inj (hraw.symm.trans hraw')

/-- A class that some rendering declares stands under its name, unless an alias does. -/
theorem find?_of_declares {c : RecordClass} (hr : run.Renders r)
    (hdeclares : r.Declares run.components c) :
    run.final.draft.registry.identifier? r.raw = some c.name ∧
      (run.final.draft.declarations.find? c.name = some (.record c) ∨
        ∃ text, run.final.draft.declarations.find? c.name = some (.synonym c.name text)) := by
  have hafter := (run.aging_of_renders hr).2
  exact ⟨hafter.registry.assigned hdeclares.named, hafter.kept hdeclares.declared⟩

/-- The class of an inline record has its fields just if the name is not disputed. -/
theorem InlineRecord.declaresRecord_iff (h : run.InlineRecord r fields hint) :
    content.DeclaresRecord hint fields ↔ run.Undisputed r.raw hint fields := by
  obtain ⟨hraw, x, hx⟩ := h.named
  rw [← run.find?_declarations] at hx
  constructor
  · rintro ⟨c, hc, hmatches⟩
    have hunaliased : ∀ text,
        Declarations.find? content.declarations hint ≠ some (.synonym hint text) := by
      intro text hsynonym
      rw [hc] at hsynonym
      cases hsynonym
    refine ⟨hunaliased, fun r' c' hr' hsame hdeclares ↦ ?_⟩
    obtain ⟨hraw', hfound⟩ := find?_of_declares hr' hdeclares
    have hname : c'.name = hint := by
      rw [hsame, hraw] at hraw'
      exact (Option.some.inj hraw').symm
    rw [hname, ← run.find?_declarations] at hfound
    rcases hfound with hfound | ⟨text, hsynonym⟩
    · have hclass : c = c' := by
        rw [hc] at hfound
        injection Option.some.inj hfound
      rwa [← hclass]
    · exact absurd hsynonym (hunaliased text)
  · intro hundisputed
    cases x with
    | synonym name text =>
      obtain rfl : name = hint := Declarations.name_of_find? hx
      exact absurd hx (hundisputed.unaliased text)
    | record c =>
      have hfinal := hx
      rw [run.find?_declarations] at hfinal
      obtain ⟨r', hr', hdeclares, hraw'⟩ := run.exists_declares hfinal
      -- Identifiers are injective, so the class was declared under the record's own raw name.
      have hsame := run.aging_final.sound.registry.injective hraw' hraw
      exact ⟨c, hx, hundisputed.unanimous r' c hr' hsame hdeclares⟩

/-- A rendering of a record that declares a class gives it the fields of the record. -/
theorem matchesFields_of_declares {c : RecordClass} (hr : run.Renders r)
    (hshape : ∃ extra, r.type.collapse = .record fields extra) (hnonempty : fields ≠ [])
    (hdeclares : r.Declares run.components c) : c.MatchesFields fields := by
  have hsound := (run.aging_of_renders hr).1
  obtain ⟨extra, hopens⟩ := opens_of_shape run.components hshape hnonempty
  obtain ⟨hkeys, hbases⟩ := hopens.of_declares hsound hdeclares
  refine ⟨hbases.elim id id, fun key ↦ ?_⟩
  rw [hkeys]

/-- An alias under the annotation of an inline record is that of the component of its raw name. -/
theorem InlineRecord.mem_components (h : run.InlineRecord r fields hint) {text : String}
    (halias : Declarations.find? content.declarations hint = some (.synonym hint text)) :
    r.raw ∈ run.components.map (·.1) := by
  rw [run.find?_declarations] at halias
  obtain ⟨raw, hcomponent, hraw⟩ := run.exists_component halias
  have hsame := run.aging_final.sound.registry.injective hraw h.named.1
  rwa [← hsame]

/-- Inline records under one raw name have the same fields, no alias has the name of one, and a
class that is declared under its raw name for something else has its fields too. -/
structure Separate (run : Run description options content) : Prop where
  alike : ∀ {r r' fields fields' hint hint'}, run.InlineRecord r fields hint →
    run.InlineRecord r' fields' hint' → r.raw = r'.raw →
      ∀ key, key ∈ keysOf fields ↔ key ∈ keysOf fields'
  unaliased : ∀ {r fields hint}, run.InlineRecord r fields hint → ∀ text,
    Declarations.find? content.declarations hint ≠ some (.synonym hint text)
  others : ∀ {r fields hint}, run.InlineRecord r fields hint → ∀ r' c, run.Renders r' →
    r'.raw = r.raw → r'.Declares run.components c →
      (∀ fields' hint', ¬ run.InlineRecord r' fields' hint') → c.MatchesFields fields

/-- Inline records that are declared with their fields have the same fields if they share a name. -/
theorem InlineRecord.keysOf_eq (h : run.InlineRecord r fields hint)
    (h' : run.InlineRecord r' fields' hint') (hraw : r.raw = r'.raw)
    (hdeclared : content.DeclaresRecord hint fields)
    (hdeclared' : content.DeclaresRecord hint' fields') (key : Value × Bool) :
    key ∈ keysOf fields ↔ key ∈ keysOf fields' := by
  obtain ⟨c, hc, hmatches⟩ := hdeclared
  obtain ⟨c', hc', hmatches'⟩ := hdeclared'
  rw [← (h.hint_eq_iff h').2 hraw] at hc'
  have hsame : c = c' := by
    injection Option.some.inj (hc.symm.trans hc')
  rw [← hmatches.keys, hsame, hmatches'.keys]

theorem declaresRecord_all_iff :
    (∀ {r fields hint}, run.InlineRecord r fields hint → content.DeclaresRecord hint fields) ↔
      run.Separate := by
  constructor
  · intro hall
    refine ⟨fun hr hr' hraw ↦ hr.keysOf_eq hr' hraw (hall hr) (hall hr'), ?_, ?_⟩
    · intro r fields hint hr
      exact (hr.declaresRecord_iff.1 (hall hr)).unaliased
    · intro r fields hint hr r' c hr' hraw hdeclares _
      exact (hr.declaresRecord_iff.1 (hall hr)).unanimous r' c hr' hraw hdeclares
  · intro hseparate r fields hint hr
    refine hr.declaresRecord_iff.2 ⟨hseparate.unaliased hr, ?_⟩
    intro r' c hr' hraw hdeclares
    by_cases hinline : ∃ fields' hint', run.InlineRecord r' fields' hint'
    · obtain ⟨fields', hint', hinline⟩ := hinline
      have hown := matchesFields_of_declares hr' hinline.shape hinline.nonempty hdeclares
      refine ⟨hown.bases, fun key ↦ ?_⟩
      rw [hown.keys, hseparate.alike hinline hr hraw]
    · push Not at hinline
      exact hseparate.others hr r' c hr' hraw hdeclares hinline

/-- What becomes of the inline records of a run. -/
structure DeclaresInlineRecords (run : Run description options content) : Prop where
  all : (∀ {r fields hint}, run.InlineRecord r fields hint →
    content.DeclaresRecord hint fields) ↔ run.Separate
  declared : ∀ {r fields hint}, run.InlineRecord r fields hint →
    (content.DeclaresRecord hint fields ↔ run.Undisputed r.raw hint fields)
  shared : ∀ {r r' fields fields' hint hint'}, run.InlineRecord r fields hint →
    run.InlineRecord r' fields' hint' → (hint = hint' ↔ r.raw = r'.raw)
  own : ∀ {r fields extra c}, run.Renders r → r.type.collapse = .record fields extra →
    fields ≠ [] → r.Declares run.components c → c.MatchesFields fields
  aliased : ∀ {r fields hint text}, run.InlineRecord r fields hint →
    Declarations.find? content.declarations hint = some (.synonym hint text) →
      r.raw ∈ run.components.map (·.1)

end Run

/-- When a content is built, all inline records are declared with their fields just if they are
separate, and one of them just if its name is not disputed. Two of them have one annotation just if
they are rendered under one raw name, the rendering that declares the class gives it its own fields,
and an alias in its place is that of a component. -/
theorem inlineRecords_declared_iff {description : Value} {options : Options} {content : Content}
    (h : build description options = .ok content) :
    ∃ run : Run description options content, run.DeclaresInlineRecords := by
  obtain ⟨run⟩ := exists_run h
  exact ⟨run, {
    all := Run.declaresRecord_all_iff
    declared := fun hr ↦ hr.declaresRecord_iff
    shared := fun hr hr' ↦ hr.hint_eq_iff hr'
    own := fun hr hshape hnonempty hdeclares ↦
      Run.matchesFields_of_declares hr ⟨_, hshape⟩ hnonempty hdeclares
    aliased := fun hr halias ↦ hr.mem_components halias }⟩

/-- An object schema with one property. -/
def objectOf (property : String) : Value :=
  .map [("type", "object"), ("properties", .map [(.text property, .map [("type", "string")])])]

/-- A description of one operation with a parameter and a body, both of inline records. -/
def inlineRecords (parameter : String) : Value :=
  .map [("paths", .map [("/x", .map [("post", .map [
    ("operationId", "x"),
    ("tags", .list ["x"]),
    ("parameters", .list [.map [
      ("name", .text parameter), ("in", "query"), ("schema", objectOf "b")]]),
    ("requestBody", .map [("content", .map [
      ("application/json", .map [("schema", objectOf "a")])])])])])])]

def Content.hints (content : Content) : List String :=
  content.classes.flatMap (·.methods.flatMap (·.arguments.map (·.hint)))

theorem inlineRecords_filter :
    ∃ content, build (inlineRecords "filter") {} = .ok content ∧
      content.hints = ["XFilter", "XRequest"] ∧
      ∃ run : Run (inlineRecords "filter") {} content, run.DeclaresInlineRecords := by
  have hhints : (build (inlineRecords "filter") {}).toOption.map (·.hints) =
      some ["XFilter", "XRequest"] := by decide +kernel
  obtain ⟨content, hbuild, hcontent⟩ := exists_of_toOption_map hhints
  exact ⟨content, hbuild, hcontent, inlineRecords_declared_iff hbuild⟩

/-- A parameter whose name is the word that the raw name of a body ends in. -/
def sharedName : Value := inlineRecords "request"

/-- The names of a record's fields as texts. -/
def propertyNames : TypeExpr → List String
  | .record fields _ => fields.map (·.name.plain)
  | _ => []

/-- The draft of a run without components. -/
def noComponents : Draft := { Draft.empty with registry := .forModule }

/-- What a run without components renders for its operations: the names of the fields of each record
and its annotation. -/
def renderedRecords (description : Value) : List (List String × Option String) :=
  let (operations, diagnostics) :=
    (Operation.parseAll description {}).run.run noComponents.diagnostics
  let (groups, registry) :=
    Group.ofOperations (operations.toOption.getD []) noComponents.registry
  let emission : Emission := ⟨{ noComponents with registry, diagnostics }, [], .forMethods⟩
  (classesSites ⟨[], {}⟩ groups emission).map fun r ↦
    (propertyNames r.type.collapse, (exec (r.work []) r.draft).1.toOption)

theorem exists_rendersOperation {description : Value} {content : Content}
    (run : Run description {} content) (hcomponents : run.components = [])
    {record : List String × Option String} (h : record ∈ renderedRecords description) :
    ∃ r, run.RendersOperation r ∧ propertyNames r.type.collapse = record.1 ∧
      (exec (r.work run.components) r.draft).1.toOption = record.2 := by
  have hdeclared : run.declared = noComponents := by
    have hexec := run.exec_declareAll
    rw [Run.start, hcomponents] at hexec
    exact (congrArg Prod.snd hexec).symm
  have hoperations := run.operations_eq
  rw [hdeclared] at hoperations
  unfold renderedRecords at h
  rw [hoperations] at h
  obtain ⟨r, hr, rfl⟩ := List.mem_map.1 h
  refine ⟨r, ?_, rfl, by rw [hcomponents]⟩
  unfold Run.RendersOperation Run.setting Run.groups Run.emission
  rw [hcomponents, hdeclared]
  exact hr

/-- A record with one property that a run renders for an operation is an inline record. -/
theorem exists_inlineRecord {description : Value} {content : Content}
    (run : Run description {} content) (hcomponents : run.components = []) {property hint : String}
    (h : ([property], some hint) ∈ renderedRecords description) :
    ∃ r f, run.InlineRecord r [f] hint ∧ f.name.plain = property := by
  obtain ⟨r, hr, hnames, hhint⟩ := exists_rendersOperation run hcomponents h
  cases hshape : r.type.collapse with
  | record fields extra =>
    rw [hshape, propertyNames, List.map_eq_singleton_iff] at hnames
    obtain ⟨f, rfl, hname⟩ := hnames
    refine ⟨r, f, ⟨.inr ⟨r, hr, .refl⟩, ⟨extra, hshape⟩, List.cons_ne_nil f [], ?_⟩, hname⟩
    cases hresult : (exec (r.work run.components) r.draft).1 with
    | error fault =>
      rw [hresult] at hhint
      cases hhint
    | ok text =>
      rw [hresult] at hhint
      exact congrArg Except.ok (Option.some.inj hhint)
  | _ =>
    rw [hshape] at hnames
    cases hnames

/-- Two inline records with different fields have one annotation, under which only one of them can
be declared. -/
theorem inlineRecords_sharedName :
    ∃ content, build sharedName {} = .ok content ∧ ∃ run : Run sharedName {} content,
      ∃ r r' fields fields' hint, run.InlineRecord r fields hint ∧
        run.InlineRecord r' fields' hint ∧
        ¬ (content.DeclaresRecord hint fields ∧ content.DeclaresRecord hint fields') := by
  have hhints : (build sharedName {}).toOption.map (·.hints) =
      some ["XRequest", "XRequest"] := by decide +kernel
  obtain ⟨content, hbuild, -⟩ := exists_of_toOption_map hhints
  obtain ⟨run⟩ := exists_run hbuild
  have hcomponents : run.components = [] := Except.ok.inj (run.components_eq.symm.trans (by rfl))
  have hrendered : renderedRecords sharedName =
      [(["a"], some "XRequest"), (["b"], some "XRequest")] := by decide +kernel
  have hbody : (["a"], some "XRequest") ∈ renderedRecords sharedName := by
    rw [hrendered]
    exact List.mem_cons_self
  have hparameter : (["b"], some "XRequest") ∈ renderedRecords sharedName := by
    rw [hrendered]
    exact List.mem_cons_of_mem _ List.mem_cons_self
  obtain ⟨r, f, hr, hf⟩ := exists_inlineRecord run hcomponents hbody
  obtain ⟨r', f', hr', hf'⟩ := exists_inlineRecord run hcomponents hparameter
  refine ⟨content, hbuild, run, r, r', [f], [f'], "XRequest", hr, hr', ?_⟩
  rintro ⟨hdeclared, hdeclared'⟩
  have hraw : r.raw = r'.raw := (hr.hint_eq_iff hr').1 rfl
  have hkey : f.key ∈ keysOf [f'] :=
    (hr.keysOf_eq hr' hraw hdeclared hdeclared' f.key).1 (List.mem_singleton_self _)
  have hname : f.name = f'.name := congrArg Prod.fst (List.mem_singleton.1 hkey)
  rw [hname, hf'] at hf
  exact absurd hf (by decide)

end Module

end ApiClient

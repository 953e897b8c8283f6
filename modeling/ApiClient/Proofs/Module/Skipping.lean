import ApiClient.Proofs.Declaration.Order
import ApiClient.Proofs.Module.Beside
import ApiClient.Proofs.Module.ModuleNames
import ApiClient.Proofs.Module.Progress

/-!
# Skipped operations

An operation that is skipped is not undone: the class that it was grouped in is named, its methods
and types have taken names, its identifier was met, and the classes that were declared for it stay
declared. Without the operation the description gives the same methods and, apart from those
classes, the same declarations, provided that nothing of this trace is met again.
-/

namespace ApiClient.Module

open Work Draft Emission Name.Registry

namespace Run

variable {description description' : Value} {options : Options} {content : Content}

/-- The position of an operation in a run: among the operations and in its class. -/
structure Position (run : Run description options content) where
  before : List Operation
  op : Operation
  after : List Operation
  earlier : List Group
  name : String
  first : List Operation
  rest : List Operation
  later : List Group
  operations_eq : run.operations = before ++ op :: after
  groups_eq : run.groups = earlier ++ ⟨name, first ++ op :: rest⟩ :: later

namespace Position

variable {run : Run description options content} (position : run.Position)

/-- The emission once the classes before are filled. -/
def entry : Emission := (exec (emitClasses run.setting position.earlier) run.emission).2

/-- The emission that the operation meets. -/
def met : Emission :=
  (exec (emitAll run.setting position.first) { position.entry with methods := .forMethods }).2

/-- The emission that the operation leaves. -/
def left : Emission := (exec (emit run.setting position.op) position.met).2

/-- The types of the operation refer back to themselves. -/
def Skipped : Prop :=
  ∃ chain, (exec (emit run.setting position.op) position.met).1 = .error (.recursiveSchema chain)

/-- The names once the operations before are grouped. -/
def claimed : Name.Registry :=
  run.declared.registry.resolveAll (position.before.map (·.rawClass))

/-- What the operation leaves behind: the name of its class, the names and classes that were given
and declared while it was emitted, and its identifier. -/
def trace : Emission.Trace where
  given raw name :=
    GivenBetween position.claimed (position.claimed.resolve position.op.rawClass).2 raw name ∨
      GivenBetween position.met.draft.registry position.left.draft.registry raw name
  declared :=
    (List.filter (fun x ↦ !position.met.draft.declarations.contains x.name)
      position.left.draft.declarations).map (·.name)
  methods := GivenBetween position.met.methods position.left.methods
  alike id := id.isIn position.left.operationIds = id.isIn position.met.operationIds

/-- The part of it that is there before any operation is emitted. -/
def classTrace : Emission.Trace where
  given := GivenBetween position.claimed (position.claimed.resolve position.op.rawClass).2
  declared := []
  methods _ _ := False
  alike _ := True

/-- No other operation is in the class. -/
def alone : Bool := (position.first ++ position.rest).isEmpty

/-- The classes with the other operations. -/
def others : List Group :=
  position.earlier ++
    (if position.alone then [] else [⟨position.name, position.first ++ position.rest⟩]) ++
      position.later

/-- A description without the operation: its components and its other operations read the same. -/
structure Deletion (description' : Value) where
  diagnostics : List Diagnostic
  components_eq : description'.field "components" = description.field "components"
  info_eq : description'.field "info" = description.field "info"
  operations_eq : (Operation.parseAll description' options).run.run run.declared.diagnostics =
    (.ok (position.before ++ position.after), diagnostics)

namespace Deletion

variable {position} (deletion : position.Deletion description')

/-- The emission from which the classes are emitted without the operation. -/
def start : Emission where
  draft := { run.declared with
    registry := (Group.ofOperations (position.before ++ position.after) run.declared.registry).2
    diagnostics := deletion.diagnostics }
  operationIds := []
  methods := .forMethods

/-- The emission once the classes before are filled without the operation. -/
def entry : Emission := (exec (emitClasses run.setting position.earlier) deletion.start).2

/-- The emission once the class of the operation is filled without it. -/
def filled : Emission :=
  (exec (emitAll run.setting (position.first ++ position.rest))
    { deletion.entry with methods := .forMethods }).2

/-- The emission at the end, without the operation. -/
def final : Emission := (exec (emitClasses run.setting position.later) deletion.filled).2

/-- Nothing of the trace is met again. The classes stay in their order. The names that are given
without the operation agree with those of the trace and none of them is declared in it. The
identifiers of the operations to come are met alike with the operation and without it, and those in
its class are not among its methods. -/
structure Apart : Prop where
  groups : (Group.ofOperations (position.before ++ position.after) run.declared.registry).1 =
    position.others
  clears : position.trace.Clears deletion.final.draft.registry deletion.filled.methods
  rest : ∀ op ∈ position.rest, position.trace.Spares op
  later : ∀ g ∈ position.later, ∀ op ∈ g.operations, position.trace.alike op.id

end Deletion

/-! ## The run around the operation -/

/-- Every operation of a run has a position. -/
theorem exists_of_split {before after : List Operation} {op : Operation}
    (h : run.operations = before ++ op :: after) : ∃ position : run.Position,
      position.before = before ∧ position.op = op ∧ position.after = after := by
  have hop : op ∈ run.operations := h ▸ List.mem_append_right _ List.mem_cons_self
  obtain ⟨g, hg, hin⟩ := run.grouped.covered op hop
  have hmem : op ∈ g.operations := by
    rw [run.grouped.operations g hg]
    exact List.mem_filter.2 ⟨hop, hin⟩
  obtain ⟨earlier, later, hgroups⟩ := List.append_of_mem hg
  obtain ⟨first, rest, hoperations⟩ := List.append_of_mem hmem
  refine ⟨⟨before, op, after, earlier, g.name, first, rest, later, h, ?_⟩, rfl, rfl, rfl⟩
  rw [hgroups, ← hoperations]

/-- The run before the operation, and what becomes of the classes. -/
theorem exists_emitAll : ∃ classes methods more filled classes',
    exec (emitClasses run.setting position.earlier) run.emission = (.ok classes, position.entry) ∧
    exec (emitAll run.setting position.first) { position.entry with methods := .forMethods } =
      (.ok methods, position.met) ∧
    exec (emitAll run.setting (position.op :: position.rest)) position.met = (.ok more, filled) ∧
    exec (emitClasses run.setting position.later) filled = (.ok classes', run.final) ∧
    content.classes = classes ++ ⟨position.name, methods ++ more⟩ :: classes' := by
  have hclasses := run.exec_emitClasses
  rw [position.groups_eq, emitClasses_append] at hclasses
  obtain ⟨classes, entry, hearlier, hclasses⟩ := of_exec_bind hclasses
  obtain ⟨rest, final, hrest, hclasses⟩ := of_exec_bind hclasses
  obtain ⟨hcontent, rfl⟩ := exec_pure_eq_ok.1 hclasses
  obtain rfl : position.entry = entry := congrArg Prod.snd hearlier
  obtain ⟨all, classes', filled, rfl, hall, hlater⟩ := of_emitClasses_cons hrest
  rw [emitAll_append] at hall
  obtain ⟨methods, met, hfirst, hall⟩ := of_exec_bind hall
  obtain ⟨more, filled', hmore, hall⟩ := of_exec_bind hall
  obtain ⟨rfl, rfl⟩ := exec_pure_eq_ok.1 hall
  obtain rfl : position.met = met := congrArg Prod.snd hfirst
  exact ⟨classes, methods, more, _, classes', hearlier, hfirst, hmore, hlater, hcontent⟩

/-- The emission once the operation is skipped. -/
def skipped (chain : List String) : Emission :=
  { position.left with draft := { position.left.draft with
      diagnostics := position.left.draft.diagnostics ++
        [.error position.op.location ("operation skipped: " ++ Fault.recursionText chain)] } }

/-- The stages of a run around an operation that is skipped. -/
structure Stages where
  chain : List String
  classes : List ApiClass
  methods : List Method
  methods' : List Method
  classes' : List ApiClass
  filled : Emission
  earlier_eq : exec (emitClasses run.setting position.earlier) run.emission =
    (.ok classes, position.entry)
  first_eq : exec (emitAll run.setting position.first)
    { position.entry with methods := .forMethods } = (.ok methods, position.met)
  rest_eq : exec (emitAll run.setting position.rest) (position.skipped chain) =
    (.ok methods', filled)
  later_eq : exec (emitClasses run.setting position.later) filled = (.ok classes', run.final)
  classes_eq : content.classes = classes ++ ⟨position.name, methods ++ methods'⟩ :: classes'

theorem exists_stages (h : position.Skipped) : Nonempty position.Stages := by
  obtain ⟨chain, hchain⟩ := h
  obtain ⟨classes, methods, more, filled, classes', hearlier, hfirst, hmore, hlater, hcontent⟩ :=
    position.exists_emitAll
  obtain ⟨skipped, e, hop, hmore⟩ := of_exec_bind hmore
  obtain ⟨methods', filled', hrest, hmore⟩ := of_exec_bind hmore
  obtain ⟨rfl, rfl⟩ := exec_pure_eq_ok.1 hmore
  rcases emitOrSkip_cases hop with ⟨emitted, hemit, -⟩ | ⟨chain', left, hemit, rfl, rfl⟩
  · have hfault := congrArg Prod.fst hemit
    rw [hchain] at hfault
    cases hfault
  · obtain rfl : position.left = left := congrArg Prod.snd hemit
    exact ⟨chain', classes, methods, methods', classes', _, hearlier, hfirst, hrest, hlater,
      hcontent⟩

/-! ## The trace -/

/-- Before the operation, the draft grows. -/
theorem growth_met : Growth run.components Rendering.All run.emission.draft position.met.draft := by
  have hentry : Continues run.setting.components run.emission position.entry :=
    continues_emitClasses position.earlier run.emission
  have hmet : Continues run.setting.components { position.entry with methods := .forMethods }
      position.met :=
    continues_emitAll position.first _
  have hgrowth := hentry.1 run.sound_emission
  exact hgrowth.trans (hmet.1 hgrowth.sound)

/-- What the operation declares comes after what was declared. -/
theorem exists_declared : ∃ more,
    position.left.draft.declarations = position.met.draft.declarations ++ more ∧
      (List.map (·.name) (position.met.draft.declarations ++ more)).Nodup := by
  have hreaches : Emission.Reaches position.met position.left :=
    reaches_emit position.op position.met
  have hadvances : Advances run.setting.components Diagnostic.Minor position.met position.left :=
    advances_emit position.op position.met
  have hgrowth := hadvances.1 position.growth_met.sound
  obtain ⟨more, hmore⟩ := Declarations.exists_append_of_kept hreaches.draft.names
    hgrowth.sound.names hgrowth.kept
  exact ⟨more, hmore, hmore ▸ hgrowth.sound.names⟩

theorem mem_declared_iff {name : String} : name ∈ position.trace.declared ↔
    position.met.draft.declarations.contains name = false ∧
      ∃ x ∈ position.left.draft.declarations, x.name = name := by
  unfold trace
  simp only [List.mem_map, List.mem_filter, Bool.not_eq_true']
  constructor
  · rintro ⟨x, ⟨hx, hnew⟩, rfl⟩
    exact ⟨hnew, x, hx, rfl⟩
  · rintro ⟨hnew, x, hx, rfl⟩
    exact ⟨x, ⟨hx, hnew⟩, rfl⟩

/-- Without the declarations of the trace, the operation has declared nothing. -/
theorem filter_declared :
    List.filter (fun x ↦ x.name ∉ position.trace.declared) position.left.draft.declarations =
      position.met.draft.declarations := by
  obtain ⟨more, hmore, hnodup⟩ := position.exists_declared
  have hkept : ∀ x ∈ position.left.draft.declarations, decide (x.name ∉ position.trace.declared) =
      position.met.draft.declarations.contains x.name := by
    intro x hx
    rw [Bool.eq_iff_iff, decide_eq_true_iff, mem_declared_iff, not_and_or, Bool.not_eq_false]
    exact or_iff_left fun hnone ↦ hnone ⟨x, hx, rfl⟩
  rw [List.map_append, List.nodup_append] at hnodup
  rw [List.filter_congr hkept, hmore, List.filter_append, List.filter_eq_self.2,
    List.filter_eq_nil_iff.2, List.append_nil]
  · intro x hx hcontains
    obtain ⟨y, hy, hname⟩ := List.any_eq_true.1 hcontains
    exact hnodup.2.2 _ (List.mem_map_of_mem hy) _ (List.mem_map_of_mem hx) (of_decide_eq_true hname)
  · exact fun x hx ↦ List.any_eq_true.2 ⟨x, hx, decide_eq_true rfl⟩

/-- With the operation its trace is added, and without it there is none. -/
theorem beside_left {e : Emission} (h : Beside position.classTrace position.met e) :
    Beside position.trace position.left e := by
  have hreaches : Emission.Reaches position.met position.left :=
    reaches_emit position.op position.met
  have hmethods := h.methods.reaches_left hreaches.methods
  simp only [classTrace, false_or] at hmethods
  have hdeclarations := h.draft.declarations
  simp only [classTrace, List.not_mem_nil, not_false_eq_true, decide_true,
    List.filter_true] at hdeclarations
  refine ⟨⟨h.draft.registry.reaches_left hreaches.draft.registry, ?_⟩, hmethods,
    fun id hid ↦ hid.trans (h.operationIds id trivial)⟩
  rw [filter_declared, hdeclarations]

/-! ## Without the operation -/

namespace Deletion

variable {position} {deletion : position.Deletion description'}

/-- The emission that comes before the operations after the one that is left out. -/
def met (deletion : position.Deletion description') : Emission :=
  (exec (emitAll run.setting position.first) { deletion.entry with methods := .forMethods }).2

theorem reaches_final (deletion : position.Deletion description') :
    Draft.Reaches deletion.met.draft deletion.filled.draft ∧
      Draft.Reaches deletion.filled.draft deletion.final.draft :=
  ⟨(reaches_emitAll_append position.first position.rest _).draft,
    reaches_emitClasses position.later deletion.filled⟩

theorem within_entry (deletion : position.Deletion description') :
    deletion.entry.draft.registry.Extends deletion.final.draft.registry := by
  have hmet : Emission.Reaches { deletion.entry with methods := .forMethods } deletion.met :=
    reaches_emitAll position.first { deletion.entry with methods := .forMethods }
  obtain ⟨hfilled, hfinal⟩ := deletion.reaches_final
  exact (hmet.draft.registry.extends.trans hfilled.registry.extends).trans hfinal.registry.extends

theorem Apart.clears_classTrace (h : deletion.Apart) (methods : Name.Registry) :
    position.classTrace.Clears deletion.final.draft.registry methods where
  draft := ⟨Agrees.mono h.clears.draft.agrees fun _ _ ↦ .inl, fun _ ↦ List.not_mem_nil⟩
  methods := agrees_empty methods

/-- Before any operation is emitted, the trace is the name of the class. -/
theorem Apart.between_start (h : deletion.Apart) :
    BetweenClasses position.classTrace run.emission deletion.start := by
  have hsound : position.claimed.Sound := run.aging_declared.sound.registry.resolveAll _
  have hclass := (Beside.refl hsound).reaches_left
    (reaches_resolve position.claimed position.op.rawClass)
  simp only [false_or] at hclass
  have hleft : run.emission.draft.registry =
      (position.claimed.resolve position.op.rawClass).2.resolveAll
        (position.after.map (·.rawClass)) := by
    have hall : run.emission.draft.registry =
        run.declared.registry.resolveAll (run.operations.map (·.rawClass)) :=
      resolveAll_ofOperations run.operations run.declared.registry
    rwa [position.operations_eq, List.map_append, List.map_cons, Name.Registry.resolveAll_append,
      Name.Registry.resolveAll_cons] at hall
  have hright : deletion.start.draft.registry =
      position.claimed.resolveAll (position.after.map (·.rawClass)) := by
    have hall : deletion.start.draft.registry =
        run.declared.registry.resolveAll ((position.before ++ position.after).map (·.rawClass)) :=
      resolveAll_ofOperations (position.before ++ position.after) run.declared.registry
    rwa [List.map_append, Name.Registry.resolveAll_append] at hall
  have hwithin : deletion.start.draft.registry.Extends deletion.final.draft.registry := by
    have hentry : Draft.Reaches deletion.start.draft deletion.entry.draft :=
      reaches_emitClasses position.earlier deletion.start
    exact hentry.registry.extends.trans deletion.within_entry
  rw [hright] at hwithin
  refine ⟨⟨?_, ?_⟩, .refl sound_forMethods, fun _ _ ↦ rfl⟩
  · change Beside _ run.emission.draft.registry deletion.start.draft.registry
    rw [hleft, hright]
    exact hclass.resolveAll (h.clears_classTrace .forMethods).draft.agrees hwithin
  · exact (List.filter_eq_self.2 fun _ _ ↦ decide_eq_true List.not_mem_nil).symm

/-- The classes before are the same. -/
theorem Apart.entry_eq (h : deletion.Apart) (stages : position.Stages) :
    exec (emitClasses run.setting position.earlier) deletion.start =
        (.ok stages.classes, deletion.entry) ∧
      BetweenClasses position.classTrace position.entry deletion.entry := by
  have hmirrors : (classSides position.classTrace deletion.final.draft.registry).Mirrors
      (emitClasses run.setting position.earlier) :=
    mirrors_emitClasses (h.clears_classTrace .forMethods).draft fun _ _ _ _ ↦ trivial
  obtain ⟨hresult, hbeside⟩ := hmirrors.same h.between_start deletion.within_entry
  rw [stages.earlier_eq] at hresult hbeside
  exact ⟨Prod.ext hresult.symm rfl, hbeside⟩

/-- The operations before in the class have the same methods. -/
theorem Apart.met_eq (h : deletion.Apart) (stages : position.Stages) :
    exec (emitAll run.setting position.first) { deletion.entry with methods := .forMethods } =
        (.ok stages.methods, deletion.met) ∧
      Beside position.classTrace position.met deletion.met := by
  obtain ⟨hfilled, hfinal⟩ := deletion.reaches_final
  have hmirrors : (sides position.classTrace deletion.final.draft.registry
      deletion.met.methods).Mirrors (emitAll run.setting position.first) :=
    mirrors_emitAll (h.clears_classTrace _) fun _ _ ↦ ⟨fun _ _ _ hname ↦ hname, trivial⟩
  obtain ⟨hresult, hbeside⟩ := hmirrors.same (h.entry_eq stages).2
    ⟨hfilled.registry.extends.trans hfinal.registry.extends, .refl _⟩
  rw [stages.first_eq] at hresult hbeside
  exact ⟨Prod.ext hresult.symm rfl, hbeside⟩

/-- The operations after in the class have the same methods. -/
theorem Apart.filled_eq (h : deletion.Apart) (stages : position.Stages) :
    exec (emitAll run.setting position.rest) deletion.met = (.ok stages.methods', deletion.filled) ∧
      Beside position.trace stages.filled deletion.filled := by
  obtain ⟨hmet, hbeside⟩ := h.met_eq stages
  have hfilled : deletion.filled = (exec (emitAll run.setting position.rest) deletion.met).2 := by
    unfold filled
    rw [emitAll_append, exec_bind_of_ok hmet, ← map_eq_pure_bind, exec_map]
  have hleft : Beside position.trace (position.skipped stages.chain) deletion.met := by
    obtain ⟨hdraft, hmethods, hids⟩ := position.beside_left hbeside
    exact ⟨⟨hdraft.registry, hdraft.declarations⟩, hmethods, hids⟩
  have hmirrors : (sides position.trace deletion.final.draft.registry
      deletion.filled.methods).Mirrors (emitAll run.setting position.rest) :=
    mirrors_emitAll h.clears h.rest
  obtain ⟨hresult, hbeside⟩ := hmirrors.same hleft
    ⟨hfilled ▸ deletion.reaches_final.2.registry.extends, hfilled ▸ .refl _⟩
  rw [stages.rest_eq] at hresult hbeside
  rw [hfilled]
  exact ⟨Prod.ext hresult.symm rfl, hbeside⟩

/-- The classes after are the same. -/
theorem Apart.final_eq (h : deletion.Apart) (stages : position.Stages) :
    exec (emitClasses run.setting position.later) deletion.filled =
        (.ok stages.classes', deletion.final) ∧
      BetweenClasses position.trace run.final deletion.final := by
  have hfilled := betweenClasses_of_beside (h.filled_eq stages).2
  have hmirrors : (classSides position.trace deletion.final.draft.registry).Mirrors
      (emitClasses run.setting position.later) := mirrors_emitClasses h.clears.draft h.later
  obtain ⟨hresult, hbeside⟩ := hmirrors.same hfilled (.refl _)
  rw [stages.later_eq] at hresult hbeside
  exact ⟨Prod.ext hresult.symm rfl, hbeside⟩

/-- The class of the operation is filled without it, unless no other operation is in it. -/
theorem Apart.exec_class (h : deletion.Apart) (stages : position.Stages) :
    exec (emitClass run.setting ⟨position.name, position.first ++ position.rest⟩) deletion.entry =
      (.ok ⟨position.name, stages.methods ++ stages.methods'⟩, deletion.filled) := by
  have hall : exec (emitAll run.setting (position.first ++ position.rest))
      { deletion.entry with methods := .forMethods } =
      (.ok (stages.methods ++ stages.methods'), deletion.filled) := by
    rw [emitAll_append, exec_bind_of_ok (h.met_eq stages).1,
      exec_bind_of_ok (h.filled_eq stages).1]
    rfl
  rw [exec_emitClass, hall]
  rfl

theorem Apart.exec_others (h : deletion.Apart) (stages : position.Stages) :
    ∃ e, exec (emitClasses run.setting position.others) deletion.start =
        (.ok (stages.classes ++ ((if position.alone then [] else
          [⟨position.name, stages.methods ++ stages.methods'⟩]) ++ stages.classes')), e) ∧
      e.draft = deletion.final.draft := by
  have hlater := (h.final_eq stages).1
  unfold others
  rw [List.append_assoc, emitClasses_append, exec_bind_of_ok (h.entry_eq stages).1]
  split
  · next halone =>
    have hfilled : deletion.filled = { deletion.entry with methods := .forMethods } := by
      unfold filled
      rw [List.isEmpty_iff.1 halone]
      rfl
    rw [hfilled] at hlater
    have hforMethods := exec_emitClasses_forMethods run.setting position.later deletion.entry
    rw [hlater] at hforMethods
    obtain ⟨hresult, hdraft⟩ := hforMethods
    have hexec : exec (emitClasses run.setting position.later) deletion.entry =
        (.ok stages.classes', (exec (emitClasses run.setting position.later) deletion.entry).2) :=
      Prod.ext hresult.symm rfl
    refine ⟨_, ?_, hdraft.symm⟩
    rw [List.nil_append, exec_bind_of_ok hexec]
    rfl
  · refine ⟨deletion.final, ?_, rfl⟩
    rw [List.singleton_append, emitClasses, bind_assoc, exec_bind_of_ok (h.exec_class stages),
      bind_assoc, exec_bind_of_ok hlater]
    rfl

end Deletion

end Position

end Run

end ApiClient.Module

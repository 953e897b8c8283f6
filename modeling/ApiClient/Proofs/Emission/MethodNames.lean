import ApiClient.Proofs.Module.Run
import ApiClient.Proofs.Name.Registry

/-!
# Names of methods

Within a class every method is named through one registry, and its raw name is a function of the
operation, the media type and the raw names registered before. A registry gives one raw name the
same identifier every time, so the methods of a class have different names just if they were
registered under different raw names. That is not so when two operations of one identifier both
append the same media type, or when two media types of an operation have the same suffix.
-/

namespace ApiClient

open Work

/-! ## Raw names -/

namespace Operation

/-- The raw name of an operation's methods in a class where some raw names are registered. -/
def baseName (op : Operation) (registered : List String) : Except Fault Value :=
  match op.id with
  | .text raw => if raw ∈ registered then op.qualifiedId.map .text else .ok (.text raw)
  | id => .ok id

/-- The raw names for an operation's media types, in order. -/
def methodRawNames (setting : Emission.Setting) (op : Operation) (registered : List String) :
    List (Except Fault Value) :=
  let mediaTypes := op.participatingMediaTypes setting.options.defaultContentType
  mediaTypes.map fun mediaType ↦ do
    Emission.variantName setting (← op.baseName registered) mediaType (1 < mediaTypes.length)

end Operation

namespace Emission

/-- The registry of a class after some raw names were resolved in it. -/
abbrev registryOf (registered : List String) : Name.Registry :=
  Name.Registry.forMethods.resolveAll registered

theorem contains_registryOf (registered : List String) (raw : String) :
    (registryOf registered).contains raw = decide (raw ∈ registered) := by
  have hnew : Name.Registry.forMethods.contains raw = false := rfl
  rw [registryOf, Name.Registry.contains_resolveAll, hnew, Bool.false_or, List.contains_eq_mem]

theorem sound_registryOf (registered : List String) : (registryOf registered).Sound :=
  (Name.Registry.sound_new _ _).resolveAll registered

theorem rawName_registryOf {op : Operation} {registered : List String} {raw : Value}
    (h : op.rawName (registryOf registered) = .ok raw) : op.baseName registered = .ok raw := by
  unfold Operation.rawName at h
  unfold Operation.baseName
  cases hid : op.id with
  | text id =>
    simp only [Name.Registry.holds, hid, contains_registryOf] at h ⊢
    by_cases hmem : id ∈ registered
    · simp only [hmem] at h ⊢
      cases hqualified : op.qualifiedId with
      | error fault => simp [hqualified, bind, Except.bind] at h
      | ok qualified => simpa [hqualified, bind, Except.bind, pure, Except.pure, Except.map] using h
    · simpa [hmem, bind, Except.bind, pure, Except.pure] using h
  | _ =>
    simp only [Name.Registry.holds, hid] at h ⊢
    split at h
    · simpa [bind, Except.bind, pure, Except.pure] using h
    · simp [bind, Except.bind] at h

/-! ## Registering -/

/-- Emitting the methods for some media types fails at the first name, or it takes the name and
fails at the first method, or it goes on with the others. -/
theorem emitMethods_cons_cases {setting : Setting} {op : Operation} {rawName typePrefix : Value}
    {several : Bool} {mediaType : Value} {mediaTypes : List Value} {e e' : Emission}
    {result : Except Fault (List Method)}
    (h : exec (emitMethods setting op rawName typePrefix several (mediaType :: mediaTypes)) e =
      (result, e')) :
    (∃ fault, result = .error fault ∧ e' = e) ∨
    ∃ text, variantName setting rawName mediaType several = .ok (.text text) ∧
      ((∃ fault, result = .error fault ∧ e'.methods = (e.methods.resolve text).2) ∨
      ∃ m draft result', exec (emitMethod setting op mediaType (e.methods.resolve text).1
          typePrefix) e.draft = (.ok m, draft) ∧
        exec (emitMethods setting op rawName typePrefix several mediaTypes)
          ⟨draft, e.operationIds, (e.methods.resolve text).2⟩ = (result', e') ∧
        result = result'.map (m :: ·)) := by
  unfold emitMethods at h
  obtain ⟨text, hvariant, hname⟩ | ⟨fault, hname⟩ :=
    nameVariant_cases setting rawName mediaType several e
  · rw [exec_bind_of_ok hname, exec_bind, exec_drafting] at h
    rcases hm : exec (emitMethod setting op mediaType (e.methods.resolve text).1 typePrefix)
      e.draft with ⟨fault | m, draft⟩
    · simp only [hm, Prod.mk.injEq] at h
      obtain ⟨rfl, rfl⟩ := h
      exact .inr ⟨text, hvariant, .inl ⟨fault, rfl, rfl⟩⟩
    · simp only [hm] at h
      rw [exec_bind] at h
      rcases hrest : exec (emitMethods setting op rawName typePrefix several mediaTypes)
        ⟨draft, e.operationIds, (e.methods.resolve text).2⟩ with ⟨fault | ms, e''⟩
      · simp only [hrest, Prod.mk.injEq] at h
        obtain ⟨rfl, rfl⟩ := h
        exact .inr ⟨text, hvariant, .inr ⟨m, draft, .error fault, hm, hrest, rfl⟩⟩
      · simp only [hrest, exec_pure, Prod.mk.injEq] at h
        obtain ⟨rfl, rfl⟩ := h
        exact .inr ⟨text, hvariant, .inr ⟨m, draft, .ok ms, hm, hrest, rfl⟩⟩
  · rw [exec_bind_of_error hname, Prod.mk.injEq] at h
    obtain ⟨rfl, rfl⟩ := h
    exact .inl ⟨fault, rfl, rfl⟩

theorem map_ok_text_cons {setting : Setting} {rawName mediaType : Value} {several : Bool}
    {mediaTypes : List Value} {text : String} {raws : List String}
    (hvariant : variantName setting rawName mediaType several = .ok (.text text))
    (h : raws.map (fun raw ↦ .ok (.text raw)) <+:
      mediaTypes.map (variantName setting rawName · several)) :
    (text :: raws).map (fun raw ↦ .ok (.text raw)) <+:
      (mediaType :: mediaTypes).map (variantName setting rawName · several) := by
  rw [List.map_cons, List.map_cons, hvariant, List.cons_prefix_cons]
  exact ⟨rfl, h⟩

/-- Emitting methods registers raw names for the first media types, for all of them if it succeeds,
and each method has the identifier of its raw name. -/
theorem emitMethods_registers {setting : Setting} {op : Operation} {rawName typePrefix : Value}
    {several : Bool} {mediaTypes : List Value} {e e' : Emission}
    {result : Except Fault (List Method)}
    (h : exec (emitMethods setting op rawName typePrefix several mediaTypes) e = (result, e')) :
    ∃ raws : List String, raws.map (fun raw ↦ .ok (.text raw)) <+:
        mediaTypes.map (variantName setting rawName · several) ∧
      e'.methods = e.methods.resolveAll raws ∧
      ∀ methods, result = .ok methods → raws.length = mediaTypes.length ∧
        List.Forall₂ (fun raw m ↦ e'.methods.identifier? raw = some m.name) raws methods ∧
        methods.map (·.mediaType) = mediaTypes ∧ ∀ m ∈ methods, m.operationId = op.id := by
  induction mediaTypes generalizing e e' result with
  | nil =>
    unfold emitMethods at h
    rw [exec_pure, Prod.mk.injEq] at h
    obtain ⟨rfl, rfl⟩ := h
    exact ⟨[], List.prefix_rfl, rfl, fun methods hmethods ↦ by cases hmethods; simp⟩
  | cons mediaType mediaTypes ih =>
    obtain ⟨fault, rfl, rfl⟩ | ⟨text, hvariant, ⟨fault, rfl, hmethods⟩ |
      ⟨m, draft, result', hm, hrest, rfl⟩⟩ := emitMethods_cons_cases h
    · exact ⟨[], List.nil_prefix, rfl, fun _ hresult ↦ by cases hresult⟩
    · exact ⟨[text], map_ok_text_cons hvariant List.nil_prefix, hmethods,
        fun _ hresult ↦ by cases hresult⟩
    · obtain ⟨raws, hinitial, hmethods, hnames⟩ := ih hrest
      refine ⟨text :: raws, map_ok_text_cons hvariant hinitial, hmethods, fun ms hresult ↦ ?_⟩
      cases result' with
      | error fault => cases hresult
      | ok ms' =>
        obtain rfl := Except.ok.inj hresult
        obtain ⟨hlength, hforall, htypes, hids⟩ := hnames ms' rfl
        obtain ⟨parts⟩ := methodParts hm
        have hname : e'.methods.identifier? text = some m.name := by
          rw [hmethods, parts.method_name]
          exact (Name.Registry.extends_resolveAll _ raws).assigned
            (Name.Registry.identifier?_resolve_self _ text)
        refine ⟨congrArg (· + 1) hlength, .cons hname hforall, ?_, ?_⟩
        · rw [List.map_cons, parts.method_mediaType, htypes]
        · rw [List.forall_mem_cons]
          exact ⟨parts.method_operationId, hids⟩

/-- Two emissions with the same method names. -/
def SameMethods (e e' : Emission) : Prop := e'.methods = e.methods

instance : IsPreorder Emission SameMethods where
  refl _ := rfl
  trans _ _ _ h h' := h'.trans h

theorem sameMethods_report (d : Diagnostic) : Respects SameMethods (report d) := fun _ ↦ rfl

theorem sameMethods_remarkDefault (setting : Setting) (op : Operation) :
    Respects SameMethods (remarkDefault setting op) := by
  unfold remarkDefault
  split
  · exact (Respects.lift _).bind fun _ ↦ sameMethods_report _
  · exact Respects.pure _

theorem sameMethods_chooseRawName (op : Operation) : Respects SameMethods (chooseRawName op) := by
  apply Respects.get.bind
  intro e
  apply (Respects.lift _).bind
  intro raw
  apply (Respects.lift _).bind
  intro duplicate
  split
  · exact (Respects.lift _).bind fun _ ↦ (sameMethods_report _).bind fun _ ↦ Respects.pure _
  · exact Respects.pure _

theorem sameMethods_chooseTypePrefix (op : Operation) :
    Respects SameMethods (chooseTypePrefix op) := by
  apply Respects.get.bind
  intro e
  apply (Respects.lift _).bind
  intro typePrefix
  exact Respects.bind (fun _ ↦ rfl) fun _ ↦ Respects.pure _

theorem rawName_of_chooseRawName {op : Operation} {raw : Value} {e e' : Emission}
    (h : exec (chooseRawName op) e = (.ok raw, e')) : op.rawName e.methods = .ok raw := by
  unfold chooseRawName at h
  rw [exec_get_bind] at h
  obtain ⟨raw', hraw, h⟩ := of_exec_lift_bind h
  obtain ⟨duplicate, -, h⟩ := of_exec_lift_bind h
  split at h
  · obtain ⟨_, -, h⟩ := of_exec_lift_bind h
    obtain ⟨_, _, -, h⟩ := of_exec_bind h
    rw [hraw, (exec_pure_eq_ok.1 h).1]
  · rw [hraw, (exec_pure_eq_ok.1 h).1]

theorem sameMethods_prepare (setting : Setting) (op : Operation) :
    Respects SameMethods (prepare setting op) := by
  apply (sameMethods_remarkDefault setting op).bind
  intro _
  apply (sameMethods_chooseRawName op).bind
  intro rawName
  exact (sameMethods_chooseTypePrefix op).bind fun _ ↦ Respects.pure _

theorem rawName_of_prepare {setting : Setting} {op : Operation} {rawName typePrefix : Value}
    {e e' : Emission} (h : exec (prepare setting op) e = (.ok (rawName, typePrefix), e')) :
    op.rawName e.methods = .ok rawName := by
  unfold prepare at h
  obtain ⟨_, e₁, hremark, h⟩ := of_exec_bind h
  obtain ⟨rawName', e₂, hraw, h⟩ := of_exec_bind h
  obtain ⟨typePrefix', e₃, -, h⟩ := of_exec_bind h
  have hresult := (exec_pure_eq_ok.1 h).1
  rw [Prod.mk.injEq] at hresult
  have hsame : e₁.methods = e.methods := (sameMethods_remarkDefault setting op).of_exec hremark
  rw [hresult.1, ← hsame]
  exact rawName_of_chooseRawName hraw

/-- Emitting an operation registers raw names as far as it gets. -/
theorem emit_registers {setting : Setting} {op : Operation} {registered : List String}
    {e e' : Emission} {result : Except Fault (List Method)}
    (hregistry : e.methods = registryOf registered)
    (h : exec (emit setting op) e = (result, e')) :
    ∃ raws : List String, raws.map (fun raw ↦ .ok (.text raw)) <+:
        op.methodRawNames setting registered ∧
      e'.methods = registryOf (registered ++ raws) ∧
      ∀ methods, result = .ok methods →
        raws.map (fun raw ↦ .ok (.text raw)) = op.methodRawNames setting registered ∧
        List.Forall₂ (fun raw m ↦ e'.methods.identifier? raw = some m.name) raws methods ∧
        methods.map (·.mediaType) =
          op.participatingMediaTypes setting.options.defaultContentType ∧
        ∀ m ∈ methods, m.operationId = op.id := by
  unfold emit at h
  rcases hprepare : exec (prepare setting op) e with ⟨fault | ⟨rawName, typePrefix⟩, e₁⟩
  · rw [exec_bind_of_error hprepare, Prod.mk.injEq] at h
    obtain ⟨rfl, rfl⟩ := h
    refine ⟨[], List.nil_prefix, ?_, fun _ hresult ↦ by cases hresult⟩
    rw [List.append_nil, ← hregistry]
    exact (sameMethods_prepare setting op).of_exec hprepare
  · rw [exec_bind_of_ok hprepare] at h
    have hsame : e₁.methods = e.methods := (sameMethods_prepare setting op).of_exec hprepare
    obtain ⟨raws, hinitial, hmethods, hnames⟩ := emitMethods_registers h
    have hrawName := rawName_of_prepare hprepare
    rw [hregistry] at hrawName
    have hraws : op.methodRawNames setting registered =
        (op.participatingMediaTypes setting.options.defaultContentType).map
          (variantName setting rawName ·
            (1 < (op.participatingMediaTypes setting.options.defaultContentType).length)) := by
      rw [Operation.methodRawNames, rawName_registryOf hrawName]
      rfl
    refine ⟨raws, hraws ▸ hinitial, ?_, fun methods hresult ↦ ?_⟩
    · rw [hmethods, hsame, hregistry, registryOf, registryOf, Name.Registry.resolveAll_append]
    · obtain ⟨hlength, hforall, htypes, hids⟩ := hnames methods hresult
      rw [hraws]
      refine ⟨hinitial.eq_of_length ?_, hforall, htypes, hids⟩
      rw [List.length_map, List.length_map, hlength]

/-- What became of an operation of a class: the raw names that it registered, and its methods unless
it was skipped. -/
structure Turn where
  op : Operation
  registered : List String
  methods : Option (List Method)

/-- The raw names of the methods that a turn yields. -/
def Turn.rawNames (t : Turn) : List String := if t.methods.isSome then t.registered else []

/-- Turns in which the operations of a class are taken, when some raw names are registered before.
An emitted operation registers a raw name for each of its methods, a skipped one for some of its
first media types. -/
inductive Turns (setting : Setting) : List String → List Turn → Prop
  | nil {registered} : Turns setting registered []
  | emitted {registered op raws methods turns} :
      raws.map (fun raw ↦ .ok (.text raw)) = op.methodRawNames setting registered →
      methods.map (·.mediaType) = op.participatingMediaTypes setting.options.defaultContentType →
      (∀ m ∈ methods, m.operationId = op.id) → Turns setting (registered ++ raws) turns →
      Turns setting registered (⟨op, raws, some methods⟩ :: turns)
  | skipped {registered op raws turns} :
      raws.map (fun raw ↦ .ok (.text raw)) <+: op.methodRawNames setting registered →
      Turns setting (registered ++ raws) turns →
      Turns setting registered (⟨op, raws, none⟩ :: turns)

/-- The methods of turns, documented as the module has them. -/
def methodsOf (turns : List Turn) : List Method :=
  (turns.flatMap (·.methods.getD [])).map Module.escapeMethodDoc

/-- The methods of a class are those of turns in which the operations of a group are taken. -/
def TakenInTurns (setting : Setting) (g : Group) (c : Module.ApiClass) (turns : List Turn) : Prop :=
  c.name = g.name ∧ turns.map (·.op) = g.operations ∧ Turns setting [] turns ∧
    c.methods = methodsOf turns

/-- The operations of a class are taken in turns, and each method has the identifier that its raw
name has in the end. -/
theorem exists_turns {setting : Setting} {ops : List Operation} {registered : List String}
    {e e' : Emission} {methods : List Method} (hregistry : e.methods = registryOf registered)
    (h : exec (Module.emitAll setting ops) e = (.ok methods, e')) :
    ∃ turns, turns.map (·.op) = ops ∧ Turns setting registered turns ∧
      methods = methodsOf turns ∧
      e'.methods = registryOf (registered ++ turns.flatMap (·.registered)) ∧
      List.Forall₂ (fun raw m ↦ e'.methods.identifier? raw = some m.name)
        (turns.flatMap (·.rawNames)) methods := by
  induction ops generalizing registered e e' methods with
  | nil =>
    obtain ⟨rfl, rfl⟩ := exec_pure_eq_ok.1 h
    exact ⟨[], rfl, .nil, rfl, by simpa using hregistry, .nil⟩
  | cons op ops ih =>
    unfold Module.emitAll at h
    obtain ⟨first, e₁, hfirst, h⟩ := of_exec_bind h
    obtain ⟨rest, e₂, hrest, h⟩ := of_exec_bind h
    obtain ⟨rfl, rfl⟩ := exec_pure_eq_ok.1 h
    obtain ⟨ms, hemit, rfl⟩ | ⟨chain, e₃, hemit, rfl, rfl⟩ := Module.emitOrSkip_cases hfirst
    · obtain ⟨raws, -, hmethods, hnames⟩ := emit_registers hregistry hemit
      obtain ⟨hraws, hforall, htypes, hids⟩ := hnames ms rfl
      obtain ⟨turns, rfl, hturns, rfl, hend, hrestForall⟩ := ih hmethods hrest
      refine ⟨⟨op, raws, some ms⟩ :: turns, rfl, .emitted hraws htypes hids hturns, ?_, ?_, ?_⟩
      · simp [methodsOf]
      · simpa using hend
      · have hextends : e₁.methods.Extends e'.methods := by
          rw [hmethods, hend, registryOf, registryOf,
            Name.Registry.resolveAll_append _ (registered ++ raws)]
          exact Name.Registry.extends_resolveAll _ _
        refine List.rel_append ?_ hrestForall
        rw [List.forall₂_map_right_iff]
        exact hforall.imp fun raw m hraw ↦ hextends.assigned hraw
    · obtain ⟨raws, hinitial, hmethods, -⟩ := emit_registers hregistry hemit
      -- the remark that is left does not touch the registry
      obtain ⟨turns, rfl, hturns, rfl, hend, hforall⟩ := ih (by exact hmethods) hrest
      refine ⟨⟨op, raws, none⟩ :: turns, rfl, .skipped hinitial hturns, ?_, ?_, ?_⟩
      · simp [methodsOf]
      · simpa using hend
      · exact hforall

/-- In one registry, names are different just if their raw names are. -/
theorem nodup_name_iff {r : Name.Registry} (h : r.Sound) {raws : List String}
    {methods : List Method}
    (hforall : List.Forall₂ (fun raw m ↦ r.identifier? raw = some m.name) raws methods) :
    (methods.map (·.name)).Nodup ↔ raws.Nodup :=
  (List.rel_nodup h.biUnique (List.forall₂_map_right_iff.2 hforall)).symm

/-- The classes take their operations in turns, each from an empty registry. -/
theorem exists_turns_of_emitClasses {setting : Setting} {groups : List Group} {e e' : Emission}
    {classes : List Module.ApiClass}
    (h : exec (Module.emitClasses setting groups) e = (.ok classes, e')) :
    List.Forall₂ (fun g c ↦ ∃ turns, TakenInTurns setting g c turns ∧
      ((c.methods.map (·.name)).Nodup ↔ (turns.flatMap (·.rawNames)).Nodup)) groups classes := by
  induction groups generalizing e e' classes with
  | nil =>
    have hend := exec_pure_eq_ok.1 h
    rw [hend.1]
    exact .nil
  | cons g groups ih =>
    obtain ⟨methods, classes, e₁, rfl, hmethods, hclasses⟩ := Module.of_emitClasses_cons h
    obtain ⟨turns, hops, hturns, heq, hend, hforall⟩ :=
      exists_turns (show Name.Registry.forMethods = registryOf [] from rfl) hmethods
    have hsound : e₁.methods.Sound := by
      rw [hend]
      exact sound_registryOf _
    exact .cons ⟨turns, ⟨rfl, hops, hturns, heq⟩, nodup_name_iff hsound hforall⟩ (ih hclasses)

end Emission

namespace Module

/-- When a content is built, the methods of each class have pairwise different names just if its
operations were registered under pairwise different raw names, and these are settled turn by turn
by the identifiers, methods, paths and media types of the operations. -/
theorem methodNames_nodup_iff {description : Value} {options : Options} {content : Content}
    (h : build description options = .ok content) :
    ∃ run : Run description options content,
      List.Forall₂ (fun g c ↦ ∃ turns, Emission.TakenInTurns run.setting g c turns ∧
        ((c.methods.map (·.name)).Nodup ↔ (turns.flatMap (·.rawNames)).Nodup))
        run.groups content.classes := by
  obtain ⟨run⟩ := exists_run h
  exact ⟨run, Emission.exists_turns_of_emitClasses run.final_eq⟩

/-- A description of get operations with one identifier and one tag: their paths, and the media
types of their successful responses. -/
def repeatedIdentifier (operations : List (String × List String)) : Value :=
  .map [("paths", .map (operations.map fun (path, mediaTypes) ↦
    (.text path, .map [("get", .map [
      ("operationId", "pet"),
      ("tags", .list ["pets"]),
      ("responses", .map [("200", .map [("content",
        .map (mediaTypes.map fun mediaType ↦ (.text mediaType, .map [])))])])])])))]

/-- Two operations that have the default media type among theirs. -/
def withDefault : Value := repeatedIdentifier
  [("/a", ["application/json", "text/xml"]), ("/b", ["application/json", "text/xml"])]

theorem methodNames_withDefault :
    ∃ content, build withDefault {} = .ok content ∧
      content.classes.map (·.methods.map (·.name)) =
        [["pet", "petXml", "petGetB", "petGetBXml"]] ∧
      ∃ run : Run withDefault {} content,
        List.Forall₂ (fun g c ↦ ∃ turns, Emission.TakenInTurns run.setting g c turns ∧
          ((c.methods.map (·.name)).Nodup ↔ (turns.flatMap (·.rawNames)).Nodup))
          run.groups content.classes := by
  have hnames : (build withDefault {}).toOption.map
      (·.classes.map (·.methods.map (·.name))) =
        some [["pet", "petXml", "petGetB", "petGetBXml"]] := by decide +kernel
  obtain ⟨content, hbuild, hclasses⟩ := exists_of_toOption_map hnames
  exact ⟨content, hbuild, hclasses, methodNames_nodup_iff hbuild⟩

/-- Two operations without the default media type. -/
def withoutDefault : Value := repeatedIdentifier
  [("/a", ["text/plain", "text/xml"]), ("/b", ["text/plain", "text/xml"])]

/-- The raw name that both operations extend is never registered itself, so the second operation
is given the names of the first. -/
theorem methodNames_withoutDefault :
    ∃ content, build withoutDefault {} = .ok content ∧
      ∃ c ∈ content.classes, ¬ (c.methods.map (·.name)).Nodup := by
  have hnames : (build withoutDefault {}).toOption.map
      (·.classes.map (·.methods.map (·.name))) =
        some [["petPlain", "petXml", "petPlain", "petXml"]] := by decide +kernel
  obtain ⟨content, hbuild, hclasses⟩ := exists_of_toOption_map hnames
  have hmem : ["petPlain", "petXml", "petPlain", "petXml"] ∈
      content.classes.map (·.methods.map (·.name)) := by
    rw [hclasses]
    exact List.mem_singleton_self _
  obtain ⟨c, hc, hnames⟩ := List.mem_map.1 hmem
  refine ⟨content, hbuild, c, hc, ?_⟩
  rw [hnames]
  decide

end Module

end ApiClient

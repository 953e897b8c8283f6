import ApiClient.Proofs.Emission.Branches
import ApiClient.Proofs.Emission.MethodNames
import ApiClient.Proofs.Emission.Progress

/-!
# Warnings of duplicates

An operation is said to be a duplicate when its identifier is one of the raw names that are
registered in its class. An earlier operation of the identifier has registered it if one of its
methods goes without the suffix of a media type. Otherwise it has registered longer names only, and
the duplicate goes unnoticed. A name with a suffix has a blank, so an identifier without blanks is
never taken for a duplicate of another one.
-/

namespace ApiClient

open Work

/-! ## Registered identifiers -/

namespace Operation

variable {setting : Emission.Setting} {op : Operation} {registered : List String} {id : String}

/-- One of the operation's methods goes without the suffix of its media type: the only one, or the
one for the default media type. -/
def KeepsName (setting : Emission.Setting) (op : Operation) : Prop :=
  ∃ mediaType ∈ op.participatingMediaTypes setting.options.defaultContentType,
    (op.participatingMediaTypes setting.options.defaultContentType).length = 1 ∨
      mediaType.same setting.options.defaultContentType = true

/-- A raw name without blanks is the identifier of the operation itself. -/
theorem id_eq_of_mem_methodRawNames
    (h : Except.ok (Value.text id) ∈ op.methodRawNames setting registered)
    (hblank : ' ' ∉ id.toList) : op.id = .text id := by
  obtain ⟨mediaType, -, hname⟩ := List.mem_map.1 h
  obtain ⟨base, hbase, hname⟩ := Module.of_bind_eq_ok hname
  obtain rfl : base = .text id := by
    unfold Emission.variantName at hname
    split at hname
    · obtain ⟨plain, -, hname⟩ := Module.of_bind_eq_ok hname
      obtain ⟨text, -, hname⟩ := Module.of_bind_eq_ok hname
      obtain rfl := Value.text.inj (Except.ok.inj hname)
      simp at hblank
    · exact Except.ok.inj hname
  unfold baseName at hbase
  split at hbase
  · next raw hid =>
    split at hbase
    · cases hqualified : op.qualifiedId with
      | error fault =>
        rw [hqualified] at hbase
        cases hbase
      | ok qualified =>
        rw [hqualified] at hbase
        obtain rfl := Value.text.inj (Except.ok.inj hbase)
        obtain ⟨plain, -, hqualified⟩ := Module.of_bind_eq_ok hqualified
        obtain rfl := Except.ok.inj hqualified
        simp at hblank
    · rw [hid]
      exact Except.ok.inj hbase
  · exact Except.ok.inj hbase

/-- An operation that keeps its name registers its identifier, unless that is registered. -/
theorem exists_id_mem_of_keepsName {raws : List String} (h : op.KeepsName setting)
    (hraws : raws.map (fun raw ↦ .ok (.text raw)) = op.methodRawNames setting registered) :
    ∃ id ∈ registered ++ raws, op.id = .text id := by
  obtain ⟨mediaType, hmediaType, hkeeps⟩ := h
  have hmem : (do
      Emission.variantName setting (← op.baseName registered) mediaType
        (1 < (op.participatingMediaTypes setting.options.defaultContentType).length)) ∈
      op.methodRawNames setting registered := List.mem_map_of_mem hmediaType
  have hvariant (base : Value) : Emission.variantName setting base mediaType
      (1 < (op.participatingMediaTypes setting.options.defaultContentType).length) = .ok base := by
    unfold Emission.variantName
    rcases hkeeps with hone | hdefault
    · simp [hone]
    · simp [hdefault]
  simp only [hvariant] at hmem
  rw [← hraws, List.mem_map] at hmem
  obtain ⟨raw, hraw, hname⟩ := hmem
  obtain ⟨base, hbase, hname⟩ := Module.of_bind_eq_ok hname.symm
  obtain rfl : base = .text raw := Except.ok.inj hname
  unfold baseName at hbase
  split at hbase
  · next id hid =>
    refine ⟨id, ?_, hid⟩
    split at hbase
    · next hmem => exact List.mem_append_left _ hmem
    · obtain rfl : id = raw := Value.text.inj (Except.ok.inj hbase)
      exact List.mem_append_right _ hraw
  · exact ⟨raw, List.mem_append_right _ hraw, Except.ok.inj hbase⟩

end Operation

namespace Emission

variable {setting : Setting} {registered : List String} {turns : List Turn} {id : String}

/-- A registered raw name without blanks is the identifier of an operation that was taken. -/
theorem Turns.exists_of_mem_registered (h : Turns setting registered turns)
    (hblank : ' ' ∉ id.toList) (hmem : id ∈ turns.flatMap (·.registered)) :
    ∃ t ∈ turns, t.op.id = .text id := by
  obtain ⟨t, ht, hid⟩ := List.mem_flatMap.1 hmem
  refine ⟨t, ht, ?_⟩
  induction h with
  | nil => cases ht
  | @emitted registered op raws methods turns hraws _ _ _ ih =>
    rcases List.mem_cons.1 ht with rfl | ht
    · exact Operation.id_eq_of_mem_methodRawNames
        (hraws ▸ List.mem_map_of_mem (f := fun raw ↦ Except.ok (Value.text raw)) hid) hblank
    · exact ih (List.mem_flatMap.2 ⟨t, ht, hid⟩) ht
  | @skipped registered op raws turns hraws _ ih =>
    rcases List.mem_cons.1 ht with rfl | ht
    · exact Operation.id_eq_of_mem_methodRawNames (hraws.subset
        (List.mem_map_of_mem (f := fun raw ↦ Except.ok (Value.text raw)) hid)) hblank
    · exact ih (List.mem_flatMap.2 ⟨t, ht, hid⟩) ht

/-- The identifier of an operation that was emitted and keeps its name is registered. -/
theorem Turns.exists_registered (h : Turns setting registered turns) {t : Turn} (ht : t ∈ turns)
    (hemitted : t.methods.isSome) (hkeeps : t.op.KeepsName setting) :
    ∃ id ∈ registered ++ turns.flatMap (·.registered), t.op.id = .text id := by
  induction h with
  | nil => cases ht
  | @emitted registered op raws methods turns hraws _ _ _ ih =>
    rw [List.flatMap_cons, ← List.append_assoc]
    rcases List.mem_cons.1 ht with rfl | ht
    · obtain ⟨id, hid, hop⟩ := Operation.exists_id_mem_of_keepsName hkeeps hraws
      exact ⟨id, List.mem_append_left _ hid, hop⟩
    · exact ih ht
  | @skipped registered op raws turns _ _ ih =>
    rw [List.flatMap_cons, ← List.append_assoc]
    rcases List.mem_cons.1 ht with rfl | ht
    · cases hemitted
    · exact ih ht

/-! ## Faults before the methods -/

/-- The result is not the fault of a recursive schema. -/
def Shallow {α : Type} (result : Except Fault α) : Prop :=
  ∀ chain, result ≠ .error (.recursiveSchema chain)

namespace Shallow

variable {α β : Type}

theorem ok (a : α) : Shallow (.ok a) := nofun

theorem bind {x : Except Fault α} {f : α → Except Fault β} (hx : Shallow x)
    (hf : ∀ a, Shallow (f a)) : Shallow (x >>= f) := by
  cases x with
  | error fault => exact fun chain hfault ↦ hx chain (congrArg _ (Except.error.inj hfault))
  | ok a => exact hf a

theorem exec_bind {x : Emitting α} {f : α → Emitting β} {e : Emission}
    (hx : Shallow (exec x e).1) (hf : ∀ a e', Shallow (exec (f a) e').1) :
    Shallow (exec (x >>= f) e).1 := by
  rw [Work.exec_bind]
  rcases hresult : exec x e with ⟨fault | a, e'⟩
  · rw [hresult] at hx
    exact fun chain hfault ↦ hx chain (congrArg _ (Except.error.inj hfault))
  · exact hf a e'

theorem lift_bind {x : Except Fault α} {f : α → Emitting β} {e : Emission} (hx : Shallow x)
    (hf : ∀ a, Shallow (exec (f a) e).1) : Shallow (exec (liftM x >>= f) e).1 := by
  cases x with
  | error fault => exact fun chain hfault ↦ hx chain (congrArg _ (Except.error.inj hfault))
  | ok a => exact hf a

end Shallow

theorem shallow_plain? (v : Value) : Shallow v.plain? := by
  unfold Value.plain?
  split
  · exact .ok _
  · exact nofun

theorem shallow_literal? (v : Value) : Shallow v.literal? := by
  unfold Value.literal?
  split
  · exact .ok _
  · exact nofun

theorem shallow_qualifiedId (op : Operation) : Shallow op.qualifiedId :=
  (shallow_plain? op.id).bind fun _ ↦ .ok _

theorem shallow_holds (registry : Name.Registry) (raw : Value) : Shallow (registry.holds raw) := by
  unfold Name.Registry.holds
  split
  · exact .ok _
  · split
    · exact .ok _
    · exact nofun

theorem shallow_rawName (op : Operation) (registry : Name.Registry) :
    Shallow (op.rawName registry) := by
  refine (shallow_holds registry op.id).bind fun held ↦ ?_
  split
  · exact (shallow_qualifiedId op).bind fun _ ↦ .ok _
  · exact .ok _

theorem shallow_typePrefix (op : Operation) (seen : List Value) :
    Shallow (op.typePrefix seen) := by
  unfold Operation.typePrefix
  split
  · exact (shallow_qualifiedId op).bind fun _ ↦ .ok _
  · exact .ok _

theorem shallow_remarkDefault (setting : Setting) (op : Operation) (e : Emission) :
    Shallow (exec (remarkDefault setting op) e).1 := by
  unfold remarkDefault
  split
  · exact Shallow.lift_bind (shallow_plain? _) fun _ ↦ .ok _
  · exact .ok _

theorem shallow_chooseRawName (op : Operation) (e : Emission) :
    Shallow (exec (chooseRawName op) e).1 := by
  unfold chooseRawName
  rw [exec_get_bind]
  refine Shallow.lift_bind (shallow_rawName op _) fun rawName ↦ ?_
  refine Shallow.lift_bind (shallow_holds _ op.id) fun held ↦ ?_
  split
  · exact Shallow.lift_bind (shallow_literal? op.id) fun _ ↦ .ok _
  · exact .ok _

theorem shallow_chooseTypePrefix (op : Operation) (e : Emission) :
    Shallow (exec (chooseTypePrefix op) e).1 := by
  unfold chooseTypePrefix
  rw [exec_get_bind]
  exact Shallow.lift_bind (shallow_typePrefix op _) fun _ ↦ .ok _

/-- No schema is followed before the methods of an operation. -/
theorem shallow_prepare (setting : Setting) (op : Operation) (e : Emission) :
    Shallow (exec (prepare setting op) e).1 := by
  refine Shallow.exec_bind (shallow_remarkDefault setting op e) fun _ e₁ ↦ ?_
  refine Shallow.exec_bind (shallow_chooseRawName op e₁) fun rawName e₂ ↦ ?_
  exact Shallow.exec_bind (shallow_chooseTypePrefix op e₂) fun _ _ ↦ .ok _

/-! ## Warnings -/

/-- Emitting the operation adds a warning that its identifier is used twice. -/
def WarnsOfDuplicate (op : Operation) (e e' : Emission) : Prop :=
  ∃ new, e'.draft.diagnostics = e.draft.diagnostics ++ new ∧
    ∃ x ∈ new, x.severity = .warning ∧ x.location = .text op.location ∧ x.OfDuplicate

/-- The operation is emitted, or it is skipped for a recursive schema. -/
def EmittedOrSkipped (result : Except Fault (List Method)) : Prop :=
  ∀ fault, result = .error fault → ∃ chain, fault = .recursiveSchema chain

/-- The warnings of a duplicate, if the identifier is one. -/
def duplicateWarnings (op : Operation) (held : Bool) : List Diagnostic :=
  if held then [.warning op.location ("duplicate operationId " ++ op.id.literal)] else []

theorem literal_eq_of_literal? {v : Value} {s : String} (h : v.literal? = .ok s) :
    v.literal = s := by
  unfold Value.literal? at h
  split at h
  · exact Except.ok.inj h
  · cases h

theorem of_chooseRawName {op : Operation} {rawName : Value} {e e' : Emission}
    (h : exec (chooseRawName op) e = (.ok rawName, e')) :
    ∃ held, e.methods.holds op.id = .ok held ∧
      e'.draft.diagnostics = e.draft.diagnostics ++ duplicateWarnings op held := by
  unfold chooseRawName at h
  rw [exec_get_bind] at h
  obtain ⟨raw, -, h⟩ := of_exec_lift_bind h
  obtain ⟨held, hheld, h⟩ := of_exec_lift_bind h
  refine ⟨held, hheld, ?_⟩
  unfold duplicateWarnings
  split at h
  · next htrue =>
    obtain ⟨literal, hliteral, h⟩ := of_exec_lift_bind h
    obtain ⟨_, e₁, hreport, h⟩ := of_exec_bind h
    obtain ⟨-, rfl⟩ := exec_pure_eq_ok.1 h
    rw [exec_report, Prod.mk.injEq] at hreport
    obtain ⟨-, rfl⟩ := hreport
    rw [if_pos htrue, literal_eq_of_literal? hliteral]
  · next hfalse =>
    obtain ⟨-, rfl⟩ := exec_pure_eq_ok.1 h
    rw [if_neg hfalse, List.append_nil]

theorem diagnostics_of_chooseTypePrefix {op : Operation} {typePrefix : Value} {e e' : Emission}
    (h : exec (chooseTypePrefix op) e = (.ok typePrefix, e')) :
    e'.draft.diagnostics = e.draft.diagnostics := by
  unfold chooseTypePrefix at h
  rw [exec_get_bind] at h
  obtain ⟨name, -, h⟩ := of_exec_lift_bind h
  rw [exec_modify_bind] at h
  obtain ⟨-, rfl⟩ := exec_pure_eq_ok.1 h
  rfl

/-- Before the methods of an operation come incidental remarks, and the warning if its identifier is
registered. -/
theorem of_prepare {op : Operation} {named : Value × Value} {e e' : Emission}
    (h : exec (prepare setting op) e = (.ok named, e')) :
    ∃ held, e.methods.holds op.id = .ok held ∧ ∃ remarks, (∀ x ∈ remarks, x.Incidental) ∧
      e'.draft.diagnostics = e.draft.diagnostics ++ remarks ++ duplicateWarnings op held := by
  unfold prepare at h
  obtain ⟨_, e₁, hremark, h⟩ := of_exec_bind h
  obtain ⟨rawName, e₂, hname, h⟩ := of_exec_bind h
  obtain ⟨typePrefix, e₃, hprefix, h⟩ := of_exec_bind h
  obtain ⟨-, rfl⟩ := exec_pure_eq_ok.1 h
  have hmethods : e₁.methods = e.methods := (sameMethods_remarkDefault setting op).of_exec hremark
  have hadvances : Advances setting.components Diagnostic.Incidental e e₁ :=
    (advances_remarkDefault op).of_exec hremark
  obtain ⟨remarks, hremarks, hincidental⟩ := hadvances.2
  obtain ⟨held, hheld, hwarnings⟩ := of_chooseRawName hname
  rw [hmethods] at hheld
  refine ⟨held, hheld, remarks, hincidental, ?_⟩
  rw [diagnostics_of_chooseTypePrefix hprefix, hwarnings, hremarks]

/-- A duplicate is warned of just if its identifier is a registered raw name. -/
theorem warnsOfDuplicate_iff_holds {op : Operation} {e e' : Emission}
    {result : Except Fault (List Method)} (h : exec (emit setting op) e = (result, e'))
    (hresult : EmittedOrSkipped result) :
    ∃ held, e.methods.holds op.id = .ok held ∧ (WarnsOfDuplicate op e e' ↔ held = true) := by
  unfold emit at h
  rcases hprepare : exec (prepare setting op) e with ⟨fault | ⟨rawName, typePrefix⟩, e₁⟩
  · -- faults of this kind come from the methods only
    rw [exec_bind_of_error hprepare, Prod.mk.injEq] at h
    obtain ⟨chain, rfl⟩ := hresult fault h.1.symm
    exact absurd (congrArg Prod.fst hprepare) (shallow_prepare setting op e chain)
  · rw [exec_bind_of_ok hprepare] at h
    obtain ⟨held, hheld, remarks, hremarks, hdiagnostics⟩ := of_prepare hprepare
    have hadvances : Advances setting.components Diagnostic.Incidental e₁ e' :=
      (advances_emitMethods op rawName typePrefix _ _).of_exec h
    obtain ⟨more, hmore, hincidental⟩ := hadvances.2
    rw [hdiagnostics, List.append_assoc, List.append_assoc] at hmore
    refine ⟨held, hheld, ?_⟩
    constructor
    · rintro ⟨new, hnew, x, hx, -, -, hduplicate⟩
      rw [hmore, List.append_cancel_left_eq] at hnew
      rw [← hnew, List.mem_append, List.mem_append] at hx
      rcases hx with hx | hx | hx
      · exact absurd hduplicate (hremarks x hx).not_ofDuplicate
      · by_contra hfree
        rw [duplicateWarnings, if_neg hfree] at hx
        cases hx
      · exact absurd hduplicate (hincidental x hx).not_ofDuplicate
    · rintro rfl
      refine ⟨_, hmore, .warning op.location ("duplicate operationId " ++ op.id.literal), ?_, rfl,
        rfl, op.id.literal, rfl⟩
      exact List.mem_append_right _ (List.mem_append_left _ List.mem_cons_self)

theorem holds_registryOf {raw : Value} {held : Bool}
    (h : (registryOf registered).holds raw = .ok held) :
    held = true ↔ ∃ id ∈ registered, raw = .text id := by
  unfold Name.Registry.holds at h
  split at h
  · next id =>
    rw [← Except.ok.inj h, contains_registryOf, decide_eq_true_eq]
    constructor
    · intro hmem
      exact ⟨id, hmem, rfl⟩
    · rintro ⟨id', hmem, hsame⟩
      rwa [Value.text.inj hsame]
  · next hother =>
    split at h
    · rw [← Except.ok.inj h]
      constructor
      · intro hfalse
        cases hfalse
      · rintro ⟨id, -, hsame⟩
        exact absurd hsame (hother id)
    · cases h

/-- The operations of a class are taken in turns. The next one is warned of as a duplicate just if
its identifier is among the raw names that the turns have registered. Unless it has blanks, it is
then the identifier of an earlier operation, and that of an earlier operation is among them if this
one was emitted and keeps its name. -/
theorem duplicate_warned_iff {earlier : List Operation} {op : Operation} {e e₁ e₂ : Emission}
    {methods : List Method} {result : Except Fault (List Method)} (hclass : e.methods = .forMethods)
    (hearlier : exec (Module.emitAll setting earlier) e = (.ok methods, e₁))
    (hemit : exec (emit setting op) e₁ = (result, e₂)) (hresult : EmittedOrSkipped result) :
    ∃ turns, turns.map (·.op) = earlier ∧ Turns setting [] turns ∧ methods = methodsOf turns ∧
      (WarnsOfDuplicate op e₁ e₂ ↔ ∃ t ∈ turns, ∃ id ∈ t.registered, op.id = .text id) ∧
      (' ' ∉ op.id.plain.toList → WarnsOfDuplicate op e₁ e₂ → ∃ q ∈ earlier, q.id = op.id) ∧
      ∀ t ∈ turns, t.op.id = op.id → t.methods.isSome → t.op.KeepsName setting →
        WarnsOfDuplicate op e₁ e₂ := by
  obtain ⟨turns, hops, hturns, hmethods, hregistry, -⟩ :=
    exists_turns (show e.methods = registryOf [] from hclass) hearlier
  rw [List.nil_append] at hregistry
  obtain ⟨held, hheld, hwarns⟩ := warnsOfDuplicate_iff_holds hemit hresult
  rw [hregistry] at hheld
  have hiff : WarnsOfDuplicate op e₁ e₂ ↔ ∃ id ∈ turns.flatMap (·.registered), op.id = .text id :=
    hwarns.trans (holds_registryOf hheld)
  refine ⟨turns, hops, hturns, hmethods, ?_, ?_, ?_⟩
  · rw [hiff]
    constructor
    · rintro ⟨id, hid, hsame⟩
      obtain ⟨t, ht, hid⟩ := List.mem_flatMap.1 hid
      exact ⟨t, ht, id, hid, hsame⟩
    · rintro ⟨t, ht, id, hid, hsame⟩
      exact ⟨id, List.mem_flatMap.2 ⟨t, ht, hid⟩, hsame⟩
  · intro hblank hduplicate
    obtain ⟨id, hid, hsame⟩ := hiff.1 hduplicate
    rw [hsame] at hblank
    obtain ⟨t, ht, hop⟩ := hturns.exists_of_mem_registered hblank hid
    exact ⟨t.op, hops ▸ List.mem_map_of_mem ht, hop.trans hsame.symm⟩
  · intro t ht hsame hemitted hkeeps
    obtain ⟨id, hid, hop⟩ := hturns.exists_registered ht hemitted hkeeps
    rw [List.nil_append] at hid
    exact hiff.2 ⟨id, hid, hsame.symm.trans hop⟩

/-- The pets as content of some media types. -/
def petsAs (mediaTypes : List Value) : Operation :=
  petsOperation [
    { status := "200", content := mediaTypes.map fun mediaType ↦ (mediaType, ⟨none⟩),
      description := "" }]

/-- The class once the pets were emitted into it. -/
def afterPets (mediaTypes : List Value) : Emission :=
  (exec (Module.emitAll ⟨[], {}⟩ [petsAs mediaTypes]) .fresh).2

/-- An operation that has a method for the default media type is warned of when it comes again. -/
theorem duplicate_warned_pets :
    ∃ methods again e, exec (Module.emitAll ⟨[], {}⟩ [petsAs ["application/json", "text/plain"]])
        .fresh = (.ok methods, afterPets ["application/json", "text/plain"]) ∧
      exec (emit ⟨[], {}⟩ (petsAs ["application/json", "text/plain"]))
        (afterPets ["application/json", "text/plain"]) = (.ok again, e) ∧
      WarnsOfDuplicate (petsAs ["application/json", "text/plain"])
        (afterPets ["application/json", "text/plain"]) e := by
  have hfirst : (exec (Module.emitAll ⟨[], {}⟩ [petsAs ["application/json", "text/plain"]])
      .fresh).1.toOption.map (·.map (·.name)) = some ["pets", "petsPlain"] := by decide +kernel
  have hsecond : (exec (emit ⟨[], {}⟩ (petsAs ["application/json", "text/plain"]))
      (afterPets ["application/json", "text/plain"])).1.toOption.map (·.map (·.name)) =
        some ["petsGetPets", "petsGetPetsPlain"] := by decide +kernel
  obtain ⟨methods, e₁, hmethods, hnames⟩ := exists_exec_of_map hfirst
  obtain rfl : afterPets ["application/json", "text/plain"] = e₁ := congrArg Prod.snd hmethods
  obtain ⟨again, e₂, hagain, -⟩ := exists_exec_of_map hsecond
  obtain ⟨turns, hops, -, hturns, -, -, hwarned⟩ :=
    duplicate_warned_iff rfl hmethods hagain nofun
  obtain ⟨t, rfl⟩ : ∃ t, turns = [t] := by
    rw [← List.length_eq_one_iff, ← List.length_map (·.op), hops]
    rfl
  have hop : t.op = petsAs ["application/json", "text/plain"] := List.singleton_inj.1 hops
  have hemitted : t.methods.isSome := by
    rw [hturns] at hnames
    cases hnone : t.methods with
    | none => simp [methodsOf, hnone] at hnames
    | some _ => rfl
  have hkeeps : t.op.KeepsName ⟨[], {}⟩ := by
    rw [hop]
    have htypes : (petsAs ["application/json", "text/plain"]).participatingMediaTypes
        "application/json" = ["application/json", "text/plain"] := by
      with_unfolding_all rfl
    exact ⟨"application/json", htypes ▸ List.mem_cons_self, .inr (by decide +kernel)⟩
  exact ⟨methods, again, e₂, hmethods, hagain,
    hwarned t (List.mem_singleton_self t) (congrArg Operation.id hop) hemitted hkeeps⟩

/-- An operation that has registered names with suffixes only comes again without a warning. -/
theorem duplicate_unnoticed_pets :
    ∃ methods again e, exec (Module.emitAll ⟨[], {}⟩ [petsAs ["text/plain", "text/xml"]])
        .fresh = (.ok methods, afterPets ["text/plain", "text/xml"]) ∧
      exec (emit ⟨[], {}⟩ (petsAs ["text/plain", "text/xml"]))
        (afterPets ["text/plain", "text/xml"]) = (.ok again, e) ∧
      ¬ WarnsOfDuplicate (petsAs ["text/plain", "text/xml"])
        (afterPets ["text/plain", "text/xml"]) e := by
  have hfirst : (exec (Module.emitAll ⟨[], {}⟩ [petsAs ["text/plain", "text/xml"]])
      .fresh).1.toOption.map (·.map (·.name)) = some ["petsPlain", "petsXml"] := by decide +kernel
  have hsecond : (exec (emit ⟨[], {}⟩ (petsAs ["text/plain", "text/xml"]))
      (afterPets ["text/plain", "text/xml"])).1.toOption.map (·.map (·.name)) =
        some ["petsPlain", "petsXml"] := by decide +kernel
  have hsilent : (exec (emit ⟨[], {}⟩ (petsAs ["text/plain", "text/xml"]))
      (afterPets ["text/plain", "text/xml"])).2.draft.diagnostics.length = 0 := by decide +kernel
  obtain ⟨methods, e₁, hmethods, -⟩ := exists_exec_of_map hfirst
  obtain rfl : afterPets ["text/plain", "text/xml"] = e₁ := congrArg Prod.snd hmethods
  obtain ⟨again, e₂, hagain, -⟩ := exists_exec_of_map hsecond
  refine ⟨methods, again, e₂, hmethods, hagain, ?_⟩
  rintro ⟨new, hnew, x, hx, -⟩
  rw [hagain] at hsilent
  rw [hnew, List.length_eq_zero_iff, List.append_eq_nil_iff] at hsilent
  rw [hsilent.2] at hx
  cases hx

end Emission

end ApiClient

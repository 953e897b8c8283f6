import ApiClient.Proofs.Draft.Conclusion
import ApiClient.Proofs.Emission.JsonResponses
import ApiClient.Proofs.Emission.MediaTypes
import ApiClient.Proofs.Emission.Progress
import ApiClient.Proofs.Emission.Signature
import ApiClient.Proofs.Operation.Expressible

/-!
# Emissions that come to a conclusion

The emission of an operation that can be written out and whose names are texts has methods as its
result, or it ends in a chain of schemas that returns to itself, or at a declared status that
consists of digits but is no number. In a result every declared status but the default has a branch
in every method, or a warning says that it is ignored.
-/

namespace ApiClient

open Work

/-! ## Lookups by texts -/

namespace Content

variable {content : Content} {mediaType : Value}

theorem exists_find? (content : Content) (h : mediaType.isWord = true) :
    ∃ found, content.find? mediaType = .ok found := by
  cases mediaType with
  | text s => exact ⟨_, rfl⟩
  | _ => cases h

theorem Expressible.of_find? (h : content.Expressible) {payload : Payload}
    (hfound : content.find? mediaType = .ok (some payload)) :
    Schema.optionExpressible payload.schema = true := by
  unfold find? at hfound
  split at hfound
  · obtain ⟨entry, hentry, rfl⟩ := Option.map_eq_some_iff.1 (Except.ok.inj hfound)
    exact (h entry (List.mem_of_find?_eq_some hentry)).2
  · cases hfound

end Content

namespace Response

variable {r : Response} {mediaType : Value}

theorem exists_payload? (r : Response) (h : mediaType.isWord = true) :
    ∃ payload, r.payload? mediaType = .ok payload := by
  obtain ⟨own, hown⟩ := r.content.exists_find? h
  obtain ⟨general, hgeneral⟩ : ∃ general, r.content.find? "*/*" = .ok general := ⟨_, rfl⟩
  exact ⟨own.or general, by rw [payload?, hown, hgeneral]; rfl⟩

/-- The schema of a payload, its own or the one for all media types, can be written out. -/
theorem expressible_of_payload? (h : r.content.Expressible) {payload : Option Payload}
    (hpayload : r.payload? mediaType = .ok payload) {s : Schema}
    (hs : payload.bind (·.schema) = some s) : s.expressible = true := by
  obtain ⟨found, rfl, hschema⟩ := Option.bind_eq_some_iff.1 hs
  obtain ⟨own, hown, hpayload⟩ := Module.of_bind_eq_ok hpayload
  obtain ⟨general, hgeneral, hpayload⟩ := Module.of_bind_eq_ok hpayload
  have hfound : Schema.optionExpressible found.schema = true := by
    rcases Option.or_eq_some_iff.1 (Except.ok.inj hpayload) with rfl | ⟨-, rfl⟩
    · exact h.of_find? hown
    · exact h.of_find? hgeneral
  rwa [hschema] at hfound

end Response

namespace Operation

variable {op : Operation} {mediaType : Value}

theorem exists_accepts (op : Operation) (h : mediaType.isWord = true) :
    ∃ accepted, op.accepts mediaType = .ok accepted := by
  unfold accepts
  induction op.responses.filter (·.isSuccess) with
  | nil => exact ⟨false, rfl⟩
  | cons r rs ih =>
    obtain ⟨found, hfound⟩ := r.content.exists_find? h
    rw [List.anyM_cons, hfound]
    cases found with
    | none => exact ih
    | some payload => exact ⟨true, rfl⟩

/-- Media types that take part in an operation are texts, provided that the default one is. -/
theorem isWord_of_mem_participatingMediaTypes (hop : op.Expressible) {default : Value}
    (hdefault : default.isWord = true) (h : mediaType ∈ op.participatingMediaTypes default) :
    mediaType.isWord = true := by
  unfold participatingMediaTypes at h
  split at h
  · rwa [List.mem_singleton.1 h]
  · rcases exists_content_of_declared h with ⟨body, hbody, hmem⟩ | ⟨r, hr, hmem⟩
    · obtain ⟨entry, hentry, rfl⟩ := List.mem_map.1 hmem
      exact (hop.body body hbody entry hentry).1
    · obtain ⟨entry, hentry, rfl⟩ := List.mem_map.1 hmem
      exact (hop.responses r (List.mem_filter.1 hr).1 entry hentry).1

end Operation

namespace Name.Registry

variable {v : Value}

theorem exists_holds (r : Name.Registry) (h : v.isWord = true) : ∃ held, r.holds v = .ok held := by
  cases v with
  | text s => exact ⟨_, rfl⟩
  | _ => cases h

theorem exists_resolveValue (r : Name.Registry) (h : v.isWord = true) :
    ∃ resolved, r.resolveValue v = .ok resolved := by
  cases v with
  | text s => exact ⟨_, rfl⟩
  | _ => cases h

end Name.Registry

/-! ## Drafting -/

namespace Drafting

variable {components : Components} {α β : Type}

/-- A step without a state that succeeds leaves its result to the next one. -/
theorem Ends.lift_bind {x : Except Fault α} {f : α → Drafting β} (hx : ∃ a, x = .ok a)
    (hf : ∀ a, x = .ok a → Ends (f a)) : Ends ((liftM x : Drafting α) >>= f) := by
  obtain ⟨a, rfl⟩ := hx
  exact hf a rfl

/-- What follows a step counts only for the results that the step can have. -/
theorem ends_bind_of_concludes {x : Drafting α} {f : α → Drafting β} {P : α → Prop}
    (hx : ∀ d, Concludes x d fun a _ ↦ P a) (hf : ∀ a, P a → Ends (f a)) : Ends (x >>= f) :=
  fun d ↦ (hx d).bind fun a d' _ ha ↦ hf a ha d'

theorem Ends.failsOnly {x : Drafting α} (h : Ends x) {allowed : Fault → Prop}
    (hallowed : ∀ chain, allowed (.recursiveSchema chain)) (d : Draft) :
    FailsOnly allowed x d := by
  intro fault t hexec
  cases h d with
  | result hresult _ => cases hresult.symm.trans hexec
  | recursive hrecursive =>
    cases hrecursive.symm.trans hexec
    exact hallowed _

theorem concludes_typeOf {s : Schema} (hs : s.expressible = true) (d : Draft) :
    Concludes (typeOf s) d fun e _ ↦ e.expressible = true := by
  obtain ⟨identify, d', htype⟩ := Emission.typeOf_exec s d
  exact .result htype (by rw [TypeExpr.expressible_ofSchema, hs])

theorem ends_render {e : TypeExpr} (he : e.expressible = true) (raw : String) :
    Ends (render components e raw) := Rendering.ends_work ⟨.empty, e, raw⟩ he

end Drafting

namespace Emission

open Drafting

variable {components : Components} {setting : Setting} {op : Operation}
  {mediaType rawPrefix typePrefix : Value}

theorem ends_renderSchema {s : Schema} (hs : s.expressible = true) (raw : String) :
    Ends (renderSchema components s raw) :=
  ends_bind_of_concludes (concludes_typeOf hs) fun _ he ↦ ends_render he raw

theorem ends_bodyArgument (components : Components) (hop : op.Expressible)
    (hmediaType : mediaType.isWord = true) (hfront : rawPrefix.isWord = true)
    (names : Name.Registry) : Ends (bodyArgument components op mediaType rawPrefix names) := by
  unfold bodyArgument
  cases hbody : op.body with
  | none => exact ends_pure _
  | some body =>
    apply Ends.lift_bind (body.content.exists_find? hmediaType)
    rintro (_ | ⟨_ | s⟩) hfound
    · exact ends_pure _
    · exact (ends_pure _).bind fun _ ↦ ends_pure _
    · have hs : s.expressible = true := (hop.body body hbody).of_find? hfound
      apply Ends.lift_bind (exists_plain? hfront)
      intro plain _
      exact (ends_renderSchema hs _).bind fun _ ↦ ends_pure _

theorem ends_parameterArgument (hfront : typePrefix.isWord = true) {p : Parameter}
    (hname : p.name.isWord = true) (hschema : p.schema.expressible = true) (names : Name.Registry) :
    Ends (parameterArgument components typePrefix p names) := by
  unfold parameterArgument
  apply Ends.lift_bind (names.exists_holds hname)
  intro taken _
  have hraw : (if taken then Value.text (p.place.text ++ " " ++ p.name.plain)
      else p.name).isWord = true := by
    cases taken with
    | true => rfl
    | false => exact hname
  apply Ends.lift_bind (names.exists_resolveValue hraw)
  intro resolved _
  apply Ends.lift_bind (exists_plain? hfront)
  intro plain _
  exact (ends_renderSchema hschema _).bind fun _ ↦ ends_pure _

theorem ends_parameterArguments (components : Components) (hfront : typePrefix.isWord = true)
    {ps : List Parameter} (hps : ∀ p ∈ ps, p.name.isWord = true ∧ p.schema.expressible = true)
    (names : Name.Registry) :
    Ends (parameterArguments components typePrefix ps names) := by
  induction ps generalizing names with
  | nil => exact ends_pure _
  | cons p ps ih =>
    obtain ⟨⟨hname, hschema⟩, hrest⟩ := List.forall_mem_cons.1 hps
    apply (ends_parameterArgument hfront hname hschema names).bind
    rintro ⟨argument, names'⟩
    exact Ends.bind (ih hrest names') fun _ ↦ ends_pure _

theorem exists_asText {v : Value} (h : v.isWord = true) : ∃ text, v.asText = .ok text := by
  cases v with
  | text s => exact ⟨s, rfl⟩
  | _ => cases h

theorem ends_successOutcome {r : Response} (hr : r.content.Expressible)
    (hmediaType : mediaType.isWord = true) (raw : String) :
    Ends (successOutcome components r mediaType raw) := by
  unfold successOutcome
  apply Ends.lift_bind (r.exists_payload? hmediaType)
  intro payload hpayload
  cases hschema : payload.bind (·.schema) with
  | none => exact ends_pure _
  | some s =>
    have hs := Response.expressible_of_payload? hr hpayload hschema
    refine ends_bind_of_concludes (concludes_typeOf hs) fun e he ↦ ?_
    have hreduced := TypeExpr.expressible_collapse e he
    cases hcollapse : e.collapse with
    | binary => exact ends_pure _
    | anything =>
      apply Ends.lift_bind (exists_asText hmediaType)
      intro text _
      split <;> exact ends_pure _
    | _ =>
      apply Ends.lift_bind (exists_asText hmediaType)
      intro text _
      split
      · exact ends_pure _
      · exact (ends_render (hcollapse ▸ hreduced) raw).bind fun _ ↦ ends_pure _

/-! ## Branches -/

/-- Why the emission of responses may stop: a chain of schemas returns to itself, or a status other
than the default cannot be read. -/
def Stops (rs : List Response) (fault : Fault) : Prop :=
  (∃ chain, fault = .recursiveSchema chain) ∨
    fault = .outOfRange ∧ ∃ r ∈ rs, r.isDefault = false ∧ StatusPattern.Unreadable r.status

theorem stops_recursive {rs : List Response} (chain : List String) :
    Stops rs (.recursiveSchema chain) := .inl ⟨chain, rfl⟩

theorem Stops.mono {rs rs' : List Response} (h : rs ⊆ rs') (fault : Fault) :
    Stops rs fault → Stops rs' fault :=
  Or.imp_right fun ⟨hfault, r, hr, hstatus⟩ ↦ ⟨hfault, r, h hr, hstatus⟩

theorem failsOnly_branchFor (components : Components) {r : Response} (hr : r.content.Expressible)
    (hmediaType : mediaType.isWord = true) (hfront : rawPrefix.isWord = true) (location : String)
    (first : Bool) (d : Draft) :
    FailsOnly (Stops [r]) (branchFor components location mediaType rawPrefix r first) d := by
  unfold branchFor
  split
  · exact (ends_pure _).failsOnly stops_recursive d
  · next hdefault =>
    have hstatus : ∀ fault, StatusPattern.parse? r.status = .error fault → Stops [r] fault := by
      intro fault hfault
      obtain ⟨hunreadable, rfl⟩ := StatusPattern.parse?_eq_error_iff.1 hfault
      exact .inr ⟨rfl, r, List.mem_singleton_self r, Bool.not_eq_true _ ▸ hdefault, hunreadable⟩
    refine (failsOnly_lift hstatus d).bind fun condition d' _ ↦ ?_
    cases condition with
    | none => exact ((ends_report _).bind fun _ ↦ ends_pure _).failsOnly stops_recursive d'
    | some condition =>
      dsimp only
      split
      · exact (ends_pure _).failsOnly stops_recursive d'
      · have hname : ∃ raw, responseName rawPrefix r first = .ok raw := by
          obtain ⟨plain, hplain⟩ := exists_plain? hfront
          exact ⟨_, by rw [responseName, hplain]; rfl⟩
        refine Ends.failsOnly ?_ stops_recursive d'
        refine (ends_lift hname).bind fun raw ↦ ?_
        exact (ends_successOutcome hr hmediaType raw).bind fun _ ↦ ends_pure _

theorem failsOnly_branchesFor (components : Components) {rs : List Response}
    (hrs : ∀ r ∈ rs, r.content.Expressible) (hmediaType : mediaType.isWord = true)
    (hfront : rawPrefix.isWord = true) (location : String) (first : Bool) (d : Draft) :
    FailsOnly (Stops rs) (branchesFor components location mediaType rawPrefix rs first) d := by
  induction rs generalizing first d with
  | nil => exact (ends_pure _).failsOnly stops_recursive d
  | cons r rs ih =>
    obtain ⟨hr, hrest⟩ := List.forall_mem_cons.1 hrs
    have hfirst := failsOnly_branchFor components hr hmediaType hfront location first d
    have hsubset : [r] ⊆ r :: rs := List.cons_subset_cons r (List.nil_subset rs)
    refine (hfirst.mono (Stops.mono hsubset)).bind fun (b, first') d' _ ↦ ?_
    have hnext := (ih hrest first' d').mono (Stops.mono (List.subset_cons_self r rs))
    exact hnext.bind fun _ d'' _ ↦ (ends_pure _).failsOnly stops_recursive d''

/-! ## Methods -/

theorem exists_variantName (setting : Setting) {raw : Value} (hraw : raw.isWord = true)
    (hmediaType : mediaType.isWord = true) (suffixed : Bool) :
    ∃ named, variantName setting raw mediaType suffixed = .ok named ∧ named.isWord = true := by
  unfold variantName
  split
  · obtain ⟨plain, hplain⟩ := exists_plain? hraw
    obtain ⟨text, htext⟩ := exists_asText hmediaType
    exact ⟨_, by rw [withSuffix, hplain, htext]; rfl, rfl⟩
  · exact ⟨raw, rfl, hraw⟩

theorem exists_bodyPlan (hmediaType : mediaType.isWord = true) (argument : Option Argument) :
    ∃ plan, bodyPlan mediaType argument = .ok plan := by
  cases argument with
  | none => exact ⟨none, rfl⟩
  | some a =>
    obtain ⟨text, htext⟩ := exists_asText hmediaType
    exact ⟨_, by rw [bodyPlan, htext]; rfl⟩

theorem failsOnly_emitMethod (setting : Setting) (hop : op.Expressible)
    (hnames : ∀ p ∈ op.parameters, p.name.isWord = true) (hmediaType : mediaType.isWord = true)
    (hfront : typePrefix.isWord = true) (name : String) (d : Draft) :
    FailsOnly (Stops op.responses) (emitMethod setting op mediaType name typePrefix) d := by
  obtain ⟨rawPrefix, hvariant, hraw⟩ := exists_variantName setting hfront hmediaType true
  have hparameters : ∀ p ∈ Operation.orderParameters op.parameters,
      p.name.isWord = true ∧ p.schema.expressible = true := fun p hp ↦ by
    have hmem := (Operation.perm_orderParameters op.parameters).mem_iff.1 hp
    exact ⟨hnames p hmem, hop.parameters p hmem⟩
  unfold emitMethod
  refine FailsOnly.lift_bind hvariant ?_
  have hbody := ends_bodyArgument setting.components hop hmediaType hraw .forArguments
  refine (hbody.failsOnly stops_recursive d).bind fun (argument, names) d₁ _ ↦ ?_
  have harguments := ends_parameterArguments setting.components hfront hparameters names
  refine (harguments.failsOnly stops_recursive d₁).bind fun parameters d₂ _ ↦ ?_
  obtain ⟨plan, hplan⟩ := exists_bodyPlan hmediaType argument
  refine FailsOnly.lift_bind hplan ?_
  obtain ⟨accepted, haccepted⟩ := op.exists_accepts hmediaType
  refine FailsOnly.lift_bind haccepted ?_
  have hbranches := failsOnly_branchesFor setting.components hop.responses hmediaType hraw
    op.location true d₂
  exact hbranches.bind fun _ d₃ _ ↦ failsOnly_of_exec (exec_pure _ d₃)

theorem failsOnly_drafting {α : Type} {allowed : Fault → Prop} {work : Drafting α} {e : Emission}
    (h : FailsOnly allowed work e.draft) : FailsOnly allowed (drafting work) e := by
  intro fault e' hexec
  rw [exec_drafting, Prod.mk.injEq] at hexec
  exact h fault _ (Prod.ext hexec.1 rfl)

theorem failsOnly_nameVariant {allowed : Fault → Prop} {rawName : Value}
    (hraw : rawName.isWord = true) (hmediaType : mediaType.isWord = true) (several : Bool)
    (e : Emission) : FailsOnly allowed (nameVariant setting rawName mediaType several) e := by
  obtain ⟨named, hnamed, hword⟩ := exists_variantName setting hraw hmediaType several
  unfold nameVariant
  refine FailsOnly.lift_bind hnamed ?_
  cases named with
  | text raw => exact failsOnly_of_exec rfl
  | _ => cases hword

theorem failsOnly_emitMethods (hop : op.Expressible)
    (hnames : ∀ p ∈ op.parameters, p.name.isWord = true) {rawName : Value}
    (hraw : rawName.isWord = true) (hfront : typePrefix.isWord = true) (several : Bool)
    {mediaTypes : List Value} (hmediaTypes : ∀ mediaType ∈ mediaTypes, mediaType.isWord = true)
    (e : Emission) :
    FailsOnly (Stops op.responses) (emitMethods setting op rawName typePrefix several mediaTypes)
      e := by
  induction mediaTypes generalizing e with
  | nil => exact failsOnly_of_exec (exec_pure _ e)
  | cons mediaType mediaTypes ih =>
    obtain ⟨hfirst, hrest⟩ := List.forall_mem_cons.1 hmediaTypes
    unfold emitMethods
    refine (failsOnly_nameVariant hraw hfirst several e).bind fun name e₁ _ ↦ ?_
    have hmethod := failsOnly_emitMethod setting hop hnames hfirst hfront name e₁.draft
    refine (failsOnly_drafting hmethod).bind fun m e₂ _ ↦ ?_
    exact (ih hrest e₂).bind fun _ e₃ _ ↦ failsOnly_of_exec (exec_pure _ e₃)

/-! ## Operations -/

theorem exists_remarkDefault (hdefault : setting.options.defaultContentType.isWord = true)
    (op : Operation) (e : Emission) : ∃ e', exec (remarkDefault setting op) e = (.ok (), e') := by
  obtain ⟨plain, hplain⟩ := exists_plain? hdefault
  unfold remarkDefault
  split
  · rw [hplain]
    exact ⟨_, rfl⟩
  · exact ⟨e, rfl⟩

theorem exists_qualifiedId (hid : op.id.isWord = true) : ∃ name, op.qualifiedId = .ok name := by
  obtain ⟨plain, hplain⟩ := exists_plain? hid
  exact ⟨_, by rw [Operation.qualifiedId, hplain]; rfl⟩

theorem exists_chooseRawName (hid : op.id.isWord = true) (e : Emission) :
    ∃ rawName e', exec (chooseRawName op) e = (.ok rawName, e') ∧ rawName.isWord = true := by
  obtain ⟨held, hheld⟩ := e.methods.exists_holds hid
  obtain ⟨name, hname⟩ := exists_qualifiedId hid
  obtain ⟨literal, hliteral⟩ := exists_literal? (Value.writable_of_isWord hid)
  have hrawName : op.rawName e.methods = .ok (if held then .text name else op.id) := by
    rw [Operation.rawName, hheld, hname]
    cases held <;> rfl
  unfold chooseRawName
  rw [exec_get_bind]
  dsimp only
  rw [hrawName, hheld, hliteral]
  cases held with
  | true => exact ⟨_, _, rfl, rfl⟩
  | false => exact ⟨op.id, e, rfl, hid⟩

theorem exists_chooseTypePrefix (hid : op.id.isWord = true) (e : Emission) :
    ∃ typePrefix e', exec (chooseTypePrefix op) e = (.ok typePrefix, e') ∧
      typePrefix.isWord = true := by
  obtain ⟨name, hname⟩ := exists_qualifiedId hid
  unfold chooseTypePrefix
  rw [exec_get_bind, Operation.typePrefix, hname]
  cases op.id.isIn e.operationIds with
  | true => exact ⟨_, _, rfl, rfl⟩
  | false => exact ⟨op.id, _, rfl, hid⟩

/-- Before the methods of an operation nothing can fail. -/
theorem exists_prepare (hid : op.id.isWord = true)
    (hdefault : setting.options.defaultContentType.isWord = true) (e : Emission) :
    ∃ rawName typePrefix e', exec (prepare setting op) e = (.ok (rawName, typePrefix), e') ∧
      rawName.isWord = true ∧ typePrefix.isWord = true := by
  obtain ⟨e₁, hremark⟩ := exists_remarkDefault hdefault op e
  obtain ⟨rawName, e₂, hraw, hrawWord⟩ := exists_chooseRawName hid e₁
  obtain ⟨typePrefix, e₃, hfront, hprefixWord⟩ := exists_chooseTypePrefix hid e₂
  refine ⟨rawName, typePrefix, e₃, ?_, hrawWord, hprefixWord⟩
  unfold prepare
  rw [exec_bind_of_ok hremark, exec_bind_of_ok hraw, exec_bind_of_ok hfront]
  rfl

theorem failsOnly_emit (hop : op.Expressible) (hid : op.id.isWord = true)
    (hnames : ∀ p ∈ op.parameters, p.name.isWord = true)
    (hdefault : setting.options.defaultContentType.isWord = true) (e : Emission) :
    FailsOnly (Stops op.responses) (emit setting op) e := by
  obtain ⟨rawName, typePrefix, e', hprepare, hraw, hfront⟩ := exists_prepare hid hdefault e
  have hmediaTypes : ∀ mediaType ∈ op.participatingMediaTypes setting.options.defaultContentType,
      mediaType.isWord = true :=
    fun mediaType ↦ Operation.isWord_of_mem_participatingMediaTypes hop hdefault
  unfold emit
  refine (failsOnly_of_exec hprepare).bind fun prepared e₁ hexec ↦ ?_
  obtain rfl : (rawName, typePrefix) = prepared :=
    Except.ok.inj (Prod.ext_iff.1 (hprepare.symm.trans hexec)).1
  exact failsOnly_emitMethods hop hnames hraw hfront _ hmediaTypes e₁

/-! ## Statuses in a result -/

open Diagnostic

/-- The remark that a declared status is ignored. -/
def ignoredStatus (location : String) (r : Response) : Diagnostic :=
  .warning location ("unrecognized status " ++ quote r.status ++ " ignored")

theorem brings_branchFor {location : String} {r : Response} {first : Bool}
    {result : Option Branch × Bool} {d d' : Draft}
    (h : exec (branchFor components location mediaType rawPrefix r first) d = (.ok result, d'))
    (hdefault : r.isDefault = false) (hstatus : StatusPattern.parse? r.status = .ok none) :
    Brings (ignoredStatus location r) d.diagnostics d'.diagnostics := by
  unfold branchFor at h
  rw [hdefault, if_neg Bool.false_ne_true] at h
  obtain ⟨condition, hcondition, h⟩ := of_exec_lift_bind h
  obtain rfl : none = condition := Except.ok.inj (hstatus.symm.trans hcondition)
  obtain ⟨_, d₁, hreport, h⟩ := of_exec_bind h
  obtain ⟨-, rfl⟩ := exec_pure_eq_ok.1 h
  obtain ⟨-, rfl⟩ := Prod.mk.inj hreport
  exact brings_single _ _

theorem brings_branchesFor {location : String} {rs : List Response} {first : Bool}
    {bs : List Branch} {d d' : Draft}
    (h : exec (branchesFor components location mediaType rawPrefix rs first) d = (.ok bs, d'))
    {r : Response} (hr : r ∈ rs) (hdefault : r.isDefault = false)
    (hstatus : StatusPattern.parse? r.status = .ok none) :
    Brings (ignoredStatus location r) d.diagnostics d'.diagnostics := by
  induction rs generalizing first bs d with
  | nil => cases hr
  | cons q rs ih =>
    unfold branchesFor at h
    obtain ⟨⟨b, first'⟩, d₁, hb, h⟩ := of_exec_bind h
    obtain ⟨bs', d₂, hbs, h⟩ := of_exec_bind h
    obtain ⟨-, rfl⟩ := exec_pure_eq_ok.1 h
    rcases List.mem_cons.1 hr with rfl | hr
    · have hrest := (progress_branchesFor location mediaType rawPrefix rs first').of_exec hbs
      exact (brings_branchFor hb hdefault hstatus).before hrest.2
    · have hfirst := (progress_branchFor location mediaType rawPrefix q first).of_exec hb
      exact (ih hbs hr).after hfirst.2

theorem brings_emitMethod {name : String} {d d' : Draft} {m : Method}
    (h : exec (emitMethod setting op mediaType name typePrefix) d = (.ok m, d'))
    {r : Response} (hr : r ∈ op.responses) (hdefault : r.isDefault = false)
    (hstatus : StatusPattern.parse? r.status = .ok none) :
    Brings (ignoredStatus op.location r) d.diagnostics d'.diagnostics := by
  obtain ⟨parts⟩ := methodParts h
  have hbody := (progress_bodyArgument op mediaType parts.rawPrefix _).of_exec parts.body_eq
  have hparameters :=
    (progress_parameterArguments typePrefix _ parts.names).of_exec parts.parameters_eq
  exact ((brings_branchesFor parts.branches_eq hr hdefault hstatus).after hparameters.2).after
    hbody.2

/-- The first method of an operation brings the remarks on its statuses. -/
theorem brings_emit {e e' : Emission} {methods : List Method}
    (h : exec (emit setting op) e = (.ok methods, e')) {r : Response} (hr : r ∈ op.responses)
    (hdefault : r.isDefault = false) (hstatus : StatusPattern.parse? r.status = .ok none) :
    Brings (ignoredStatus op.location r) e.draft.diagnostics e'.draft.diagnostics := by
  unfold emit at h
  obtain ⟨⟨rawName, typePrefix⟩, e₁, hprepare, h⟩ := of_exec_bind h
  dsimp only at h
  generalize decide (1 < _) = several at h
  cases hmediaTypes : op.participatingMediaTypes setting.options.defaultContentType with
  | nil => exact absurd hmediaTypes (op.participatingMediaTypes_ne_nil _)
  | cons mediaType mediaTypes =>
    rw [hmediaTypes] at h
    unfold emitMethods at h
    obtain ⟨name, e₂, hname, h⟩ := of_exec_bind h
    obtain ⟨m, e₃, hm, h⟩ := of_exec_bind h
    obtain ⟨rest, e₄, hrest, h⟩ := of_exec_bind h
    obtain ⟨-, rfl⟩ := exec_pure_eq_ok.1 h
    rw [exec_drafting, Prod.mk.injEq] at hm
    obtain ⟨hm, rfl⟩ := hm
    have hprepared : Advances setting.components Minor e e₁ :=
      (advances_prepare op).of_exec hprepare
    have hnamed : Advances setting.components Minor e₁ e₂ :=
      (advances_nameVariant rawName mediaType several).of_exec hname
    have hothers := (advances_emitMethods op rawName typePrefix several mediaTypes).of_exec hrest
    have hmethod := brings_emitMethod (Prod.ext hm rfl) hr hdefault hstatus
    exact ((hmethod.after hnamed.2).after hprepared.2).before hothers.2

/-- A response has a branch in every method, which answers it, unless its status is neither a code
nor a hundred. -/
theorem branch_or_ignored_of_emit {e e' : Emission} {methods : List Method}
    (h : exec (emit setting op) e = (.ok methods, e')) {m : Method} (hm : m ∈ methods)
    {r : Response} (hr : r ∈ op.responses) :
    (∃ b ∈ m.branches, b.status = r.status ∧ Branch.Answers m.mediaType r b) ∨
      StatusPattern.parse? r.status = .ok none := by
  obtain ⟨typePrefix, hmethods⟩ := forall₂_of_emit h
  obtain ⟨mediaType, -, name, d, d', hexec⟩ := Module.exists_left_of_mem hmethods hm
  obtain ⟨made, hbranches, hmade⟩ := forall₂_of_emitMethod hexec
  obtain ⟨branch, hbranch, hresponse⟩ := Module.exists_left_of_mem hmade.flip hr
  rcases hresponse with ⟨-, hnone⟩ | ⟨b, rfl, hsame, hanswers⟩
  · exact .inr hnone
  · rw [(methodFor_of_emitMethod hexec).mediaType_eq]
    exact .inl ⟨b, (hbranches b).2 hbranch, hsame, hanswers⟩

theorem ne_nil_of_emit {e e' : Emission} {methods : List Method}
    (h : exec (emit setting op) e = (.ok methods, e')) : methods ≠ [] := by
  obtain ⟨typePrefix, hmethods⟩ := forall₂_of_emit h
  rintro rfl
  exact op.participatingMediaTypes_ne_nil _ (List.forall₂_nil_right_iff.1 hmethods)

/-- The operation has methods, and each declared status but the default has a branch in every one of
them, or a new warning says that it is ignored. -/
structure Settled (op : Operation) (methods : List Method) (e e' : Emission) : Prop where
  ne_nil : methods ≠ []
  status : ∀ r ∈ op.responses, r.isDefault = false →
    (∀ m ∈ methods, ∃ b ∈ m.branches, b.status = r.status ∧ Branch.Answers m.mediaType r b) ∨
      StatusPattern.parse? r.status = .ok none ∧
        Brings (ignoredStatus op.location r) e.draft.diagnostics e'.draft.diagnostics

theorem settled_of_emit {e e' : Emission} {methods : List Method}
    (h : exec (emit setting op) e = (.ok methods, e')) : Settled op methods e e' where
  ne_nil := ne_nil_of_emit h
  status r hr hdefault := by
    by_cases hstatus : StatusPattern.parse? r.status = .ok none
    · exact .inr ⟨hstatus, brings_emit h hr hdefault hstatus⟩
    · exact .inl fun m hm ↦ (branch_or_ignored_of_emit h hm hr).resolve_right hstatus

/-- Every status of an operation that has methods could be read. -/
theorem not_unreadable_of_emit {e e' : Emission} {methods : List Method}
    (h : exec (emit setting op) e = (.ok methods, e')) {r : Response} (hr : r ∈ op.responses) :
    ¬ StatusPattern.Unreadable r.status := by
  intro hunreadable
  have hfault := StatusPattern.parse?_eq_error_iff.2 ⟨hunreadable, rfl⟩
  obtain ⟨m, hm⟩ := List.exists_mem_of_ne_nil methods (ne_nil_of_emit h)
  rcases branch_or_ignored_of_emit h hm hr with ⟨b, -, -, hanswers⟩ | hnone
  · cases hfault.symm.trans hanswers.condition
  · cases hfault.symm.trans hnone

/-! ## Conclusions -/

/-- The operation is emitted and its statuses are settled, or a chain of schemas returns to
itself. -/
def Concluded (setting : Setting) (op : Operation) (e : Emission) : Prop :=
  (∃ methods e', exec (emit setting op) e = (.ok methods, e') ∧ Settled op methods e e') ∨
    ∃ chain e', exec (emit setting op) e = (.error (.recursiveSchema chain), e')

/-- An operation of a description whose identifier and parameter names are texts can be written out
if the description is in the interchange notation. Its emission then comes to a conclusion, provided
that no status but the default is unreadable; and where one is, it fails at it or at a chain of
schemas that returns to itself. -/
theorem emit_concludes {description : Value} {options : Options} {ds ds' : List Diagnostic}
    {ops : List Operation}
    (hops : exec (Operation.parseAll description options) ds = (.ok ops, ds')) (hop : op ∈ ops)
    (hid : op.id.isWord = true) (hnames : ∀ p ∈ op.parameters, p.name.isWord = true)
    (setting : Setting) (hdefault : setting.options.defaultContentType.isWord = true)
    (e : Emission) :
    (Json.Noted description → op.Expressible) ∧
      (op.Expressible →
        ((∀ r ∈ op.responses, r.isDefault = false → ¬ StatusPattern.Unreadable r.status) →
          Concluded setting op e) ∧
        ((∃ r ∈ op.responses, r.isDefault = false ∧ StatusPattern.Unreadable r.status) →
          ∃ fault e', exec (emit setting op) e = (.error fault, e') ∧
            (fault = .outOfRange ∨ ∃ chain, fault = .recursiveSchema chain))) := by
  refine ⟨fun hnoted ↦ Operation.expressible_of_parseAll hnoted hops op hop, fun hexpressible ↦ ?_⟩
  have hfails := failsOnly_emit hexpressible hid hnames hdefault e
  rcases hresult : exec (emit setting op) e with ⟨fault | methods, e'⟩
  · have hstops := hfails fault e' hresult
    constructor
    · intro hreadable
      rcases hstops with ⟨chain, rfl⟩ | ⟨-, r, hr, hother, hunreadable⟩
      · exact .inr ⟨chain, e', hresult⟩
      · exact absurd hunreadable (hreadable r hr hother)
    · intro _
      exact ⟨fault, e', rfl, hstops.symm.imp_left And.left⟩
  · constructor
    · intro _
      exact .inl ⟨methods, e', hresult, settled_of_emit hresult⟩
    · rintro ⟨r, hr, -, hunreadable⟩
      exact absurd hunreadable (not_unreadable_of_emit hresult hr)

/-- The description of a get operation on `/pets` with responses of some statuses. -/
def declaring (statuses : List String) : Value :=
  .map [("paths", .map [("/pets", .map [("get", .map [("operationId", "pets"),
    ("tags", .list ["pets"]),
    ("responses", .map (statuses.map fun status ↦ (.text status, .map [])))])])])]

/-- That operation. -/
def withStatuses (statuses : List String) : Operation :=
  petsOperation (statuses.map fun status ↦ { status, content := [], description := "" })

/-- A code, a status that is neither a code nor a hundred, and the default. -/
def readableStatuses : List String := ["200", "20O", "default"]

theorem emit_concludes_readableStatuses :
    exec (Operation.parseAll (declaring readableStatuses) {}) [] =
      (.ok [withStatuses readableStatuses], []) ∧
    ∃ methods e', exec (emit ⟨[], {}⟩ (withStatuses readableStatuses)) fresh = (.ok methods, e') ∧
      methods.map (·.branches.map (·.status)) = [["200"]] ∧
      Settled (withStatuses readableStatuses) methods fresh e' := by
  have hparse : exec (Operation.parseAll (declaring readableStatuses) {}) [] =
      (.ok [withStatuses readableStatuses], []) := by
    with_unfolding_all rfl
  have hnoted : Json.Noted (declaring readableStatuses) := ⟨rfl, rfl⟩
  have hstatuses : (withStatuses readableStatuses).responses.all
      (fun r ↦ (StatusPattern.parse? r.status).toOption.isSome) = true := by
    with_unfolding_all rfl
  have hreadable : ∀ r ∈ (withStatuses readableStatuses).responses, r.isDefault = false →
      ¬ StatusPattern.Unreadable r.status := by
    intro r hr _ hunreadable
    have hread := List.all_eq_true.1 hstatuses r hr
    rw [StatusPattern.parse?_eq_error_iff.2 ⟨hunreadable, rfl⟩] at hread
    cases hread
  have hresult : (exec (emit ⟨[], {}⟩ (withStatuses readableStatuses)) fresh).1.toOption.map
      (fun methods ↦ methods.map (·.branches.map (·.status))) = some [["200"]] := by
    with_unfolding_all rfl
  obtain ⟨methods, e', hmethods, hbranches⟩ := exists_exec_of_map hresult
  have hconcludes := emit_concludes hparse (List.mem_singleton_self _) rfl
    (fun p hp ↦ absurd hp List.not_mem_nil) ⟨[], {}⟩ rfl fresh
  refine ⟨hparse, methods, e', hmethods, hbranches, ?_⟩
  rcases (hconcludes.2 (hconcludes.1 hnoted)).1 hreadable with
    ⟨_, _, hsame, hsettled⟩ | ⟨chain, _, hfault⟩
  · cases hmethods.symm.trans hsame
    exact hsettled
  · cases hmethods.symm.trans hfault

/-- A superscript is a digit without a decimal value. -/
theorem not_concluded_superscript :
    exec (Operation.parseAll (declaring ["²"]) {}) [] = (.ok [withStatuses ["²"]], []) ∧
    (withStatuses ["²"]).id.isWord = true ∧ (withStatuses ["²"]).parameters = [] ∧
    (∃ e', exec (emit ⟨[], {}⟩ (withStatuses ["²"])) fresh = (.error .outOfRange, e')) ∧
    ¬ Concluded ⟨[], {}⟩ (withStatuses ["²"]) fresh := by
  have hparse : exec (Operation.parseAll (declaring ["²"]) {}) [] =
      (.ok [withStatuses ["²"]], []) := by
    with_unfolding_all rfl
  have hresult : (match (exec (emit ⟨[], {}⟩ (withStatuses ["²"])) fresh).1 with
      | .error fault => some fault
      | .ok _ => none) = some .outOfRange := by
    with_unfolding_all rfl
  rcases hemit : exec (emit ⟨[], {}⟩ (withStatuses ["²"])) fresh with ⟨fault | methods, e'⟩
  · rw [hemit] at hresult
    obtain rfl := Option.some.inj hresult
    refine ⟨hparse, rfl, rfl, ⟨e', rfl⟩, ?_⟩
    rintro (⟨_, _, hok, -⟩ | ⟨_, _, hrecursive⟩)
    · cases hemit.symm.trans hok
    · cases hemit.symm.trans hrecursive
  · rw [hemit] at hresult
    cases hresult

end Emission

end ApiClient

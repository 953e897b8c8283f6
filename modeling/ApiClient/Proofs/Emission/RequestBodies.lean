import ApiClient.Proofs.Emission.MediaTypes
import ApiClient.Proofs.Emission.Signature
import ApiClient.Proofs.Value.Shape

/-!
# Request bodies of methods

A method sends the request body of its operation if the body has content of the method's media type.
Each media type of the body has a method, except for `*/*`, which stands for all of them and takes
no part. A body that has content for all media types only is therefore sent by no method, unless the
default media type, which is taken when no other is declared, happens to be `*/*` as well.
-/

namespace ApiClient

open Work

namespace Operation

variable {op : Operation} {mediaType : Value}

theorem ne_of_mem_declaredMediaTypes (h : mediaType ∈ op.declaredMediaTypes) :
    mediaType ≠ "*/*" := by
  have hall : ∀ declared ∈ op.declaredMediaTypes, declared ≠ "*/*" := by
    refine List.foldlRecOn _ addMediaType (motive := fun mediaTypes ↦
      ∀ declared ∈ mediaTypes, declared ≠ .text "*/*") (List.forall_mem_nil _) ?_
    intro mediaTypes hearlier added _ declared hdeclared hsame
    rcases mem_of_mem_addMediaType hdeclared with hmem | rfl
    · exact hearlier declared hmem hsame
    · -- the media type for all of them is not added
      have hwildcard : declared.isText "*/*" = true := Value.isText_iff.2 hsame
      rw [addMediaType, hwildcard, Bool.true_or, if_pos rfl] at hdeclared
      exact hearlier declared hdeclared hsame
  exact hall mediaType h

theorem mem_foldl_addMediaType {mediaTypes : List Value} (h : mediaType ∈ mediaTypes)
    (added : List Value) : mediaType ∈ added.foldl addMediaType mediaTypes := by
  refine List.foldlRecOn added addMediaType h fun earlier hearlier next _ ↦ ?_
  unfold addMediaType
  split
  · exact hearlier
  · exact List.mem_append_left _ hearlier

/-- A media type of its own takes part, or one that it equals does. -/
theorem exists_of_mem_foldl_addMediaType {added mediaTypes : List Value}
    (hmem : mediaType ∈ added) (hown : mediaType ≠ "*/*") :
    ∃ declared ∈ added.foldl addMediaType mediaTypes,
      declared = mediaType ∨ mediaType.same declared = true := by
  induction added generalizing mediaTypes with
  | nil => cases hmem
  | cons first rest ih =>
    rcases List.mem_cons.1 hmem with rfl | hrest
    · have hfirst : ∃ declared ∈ addMediaType mediaTypes mediaType,
          declared = mediaType ∨ mediaType.same declared = true := by
        have hwildcard : mediaType.isText "*/*" = false :=
          Bool.eq_false_iff.2 fun h ↦ hown (Value.isText_iff.1 h)
        rw [addMediaType, hwildcard, Bool.false_or]
        split
        · next hthere =>
          obtain ⟨declared, hdeclared, hsame⟩ := List.any_eq_true.1 hthere
          exact ⟨declared, hdeclared, .inr hsame⟩
        · exact ⟨mediaType, List.mem_append_right _ List.mem_cons_self, .inl rfl⟩
      obtain ⟨declared, hdeclared, hsame⟩ := hfirst
      exact ⟨declared, mem_foldl_addMediaType hdeclared rest, hsame⟩
    · exact ih hrest

theorem exists_declared_of_body {body : RequestBody} (hbody : op.body = some body)
    (hmem : mediaType ∈ body.content.map (·.1)) (hown : mediaType ≠ "*/*") :
    ∃ declared ∈ op.declaredMediaTypes,
      declared = mediaType ∨ mediaType.same declared = true := by
  refine exists_of_mem_foldl_addMediaType (List.mem_append_left _ ?_) hown
  rw [hbody]
  exact hmem

theorem participatingMediaTypes_of_eq_nil (h : op.declaredMediaTypes = []) (default : Value) :
    op.participatingMediaTypes default = [default] := by
  rw [participatingMediaTypes, h]

theorem participatingMediaTypes_of_ne_nil (h : op.declaredMediaTypes ≠ []) (default : Value) :
    op.participatingMediaTypes default = op.declaredMediaTypes := by
  unfold participatingMediaTypes
  split
  · next hnil => exact absurd hnil h
  · rfl

/-- The media type for all of them takes part as the default only. -/
theorem of_wildcard_mem_participatingMediaTypes {default : Value}
    (h : .text "*/*" ∈ op.participatingMediaTypes default) :
    default = "*/*" ∧ op.declaredMediaTypes = [] := by
  have hnone : op.declaredMediaTypes = [] := by
    by_contra hsome
    rw [participatingMediaTypes_of_ne_nil hsome] at h
    exact ne_of_mem_declaredMediaTypes h rfl
  rw [participatingMediaTypes_of_eq_nil hnone, List.mem_singleton] at h
  exact ⟨h.symm, hnone⟩

/-- A body with content of a media type of its own has content of one that takes part. -/
theorem exists_participating_of_own {body : RequestBody} (hbody : op.body = some body)
    {entry : Value × Payload} (hentry : entry ∈ body.content) (hown : entry.1 ≠ "*/*")
    (default : Value) :
    ∃ mediaType ∈ op.participatingMediaTypes default,
      mediaType = entry.1 ∨ entry.1.same mediaType = true := by
  obtain ⟨declared, hdeclared, hsame⟩ :=
    exists_declared_of_body hbody (List.mem_map_of_mem hentry) hown
  refine ⟨declared, ?_, hsame⟩
  rwa [participatingMediaTypes_of_ne_nil (List.ne_nil_of_mem hdeclared)]

/-- A body of an operation that declares no media type has content for all of them only. -/
theorem eq_wildcard_of_declaredMediaTypes_eq_nil {body : RequestBody}
    (hbody : op.body = some body) (hnone : op.declaredMediaTypes = [])
    {entry : Value × Payload} (hentry : entry ∈ body.content) : entry.1 = "*/*" := by
  by_contra hown
  obtain ⟨declared, hdeclared, -⟩ :=
    exists_declared_of_body hbody (List.mem_map_of_mem hentry) hown
  rw [hnone] at hdeclared
  cases hdeclared

theorem bodyFor?_isSome_iff {body : RequestBody} (hbody : op.body = some body) :
    (op.bodyFor? mediaType).isSome ↔
      ∃ entry ∈ body.content, entry.1.same mediaType = true := by
  rw [bodyFor?, hbody, Option.filter_some, ← List.any_eq_true]
  cases body.content.any (·.1.same mediaType) <;> simp

end Operation

/-- The method takes an argument for the request body and sends it as its media type. -/
structure Method.Sends (m : Method) (body : RequestBody) (plan : BodyPlan) : Prop where
  body_eq : m.body = some plan
  mediaType_eq : plan.mediaType = m.mediaType
  required_eq : plan.required = body.required
  argument : ∃ a ∈ m.arguments, a.name = plan.argument ∧ a.required = body.required

namespace Emission

variable {setting : Setting} {op : Operation} {body : RequestBody}

/-- A method sends the body just if the body has content of its media type. -/
theorem exists_sends_iff {mediaType typePrefix : Value} {name : String} {d d' : Draft} {m : Method}
    (h : exec (emitMethod setting op mediaType name typePrefix) d = (.ok m, d'))
    (hbody : op.body = some body) :
    (∃ plan, m.Sends body plan) ↔ (op.bodyFor? mediaType).isSome := by
  obtain ⟨parts⟩ := methodParts h
  obtain ⟨-, -, hrel⟩ := of_bodyArgument parts.body_eq
  have hplan := parts.plan_eq
  constructor
  · rintro ⟨plan, hsends⟩
    cases hargument : parts.body with
    | none =>
      rw [hargument] at hplan
      have hnone : m.body = none := parts.method_body.trans (Except.ok.inj hplan).symm
      rw [hsends.body_eq] at hnone
      cases hnone
    | some a =>
      rw [hargument] at hrel
      cases hfor : op.bodyFor? mediaType with
      | none => rw [hfor] at hrel; cases hrel
      | some _ => rfl
  · intro hsome
    obtain ⟨supplied, hsupplied⟩ := Option.isSome_iff_exists.1 hsome
    obtain rfl : supplied = body := by
      rw [Operation.bodyFor?, hbody] at hsupplied
      exact (Option.some.inj (Option.filter_eq_some_iff.1 hsupplied).1).symm
    cases hargument : parts.body with
    | none => rw [hargument, hsupplied] at hrel; cases hrel
    | some a =>
      rw [hargument, hsupplied, Option.rel_some_some] at hrel
      rw [hargument] at hplan
      obtain ⟨text, -, hplan⟩ := Module.of_bind_eq_ok hplan
      have hmem : a ∈ m.arguments := by
        rw [parts.method_arguments, hargument, (perm_placeBody _ _).mem_iff]
        exact List.mem_append_left _ (Option.mem_toList.2 rfl)
      exact ⟨_, parts.method_body.trans (Except.ok.inj hplan).symm, parts.method_mediaType.symm,
        hrel, a, hmem, rfl, hrel⟩

/-- The media type of a method is looked up in the body, so it equals itself. -/
theorem same_self_of_emitMethod {mediaType typePrefix : Value} {name : String} {d d' : Draft}
    {m : Method} (h : exec (emitMethod setting op mediaType name typePrefix) d = (.ok m, d'))
    (hbody : op.body = some body) : mediaType.same mediaType = true := by
  obtain ⟨parts⟩ := methodParts h
  have hargument := parts.body_eq
  unfold bodyArgument at hargument
  rw [hbody] at hargument
  obtain ⟨found, hfound, -⟩ := of_exec_lift_bind hargument
  unfold Content.find? at hfound
  split at hfound
  · next hkey => exact same_self_of_variantName parts.rawPrefix_eq hkey
  · cases hfound

/-- The body that an emitted operation declares is sent by one of the methods just if it has content
of a media type of its own, or if the default media type is the one for all of them and the
operation declares no other. -/
theorem requestBody_sent_iff {e e' : Emission} {methods : List Method}
    (h : exec (emit setting op) e = (.ok methods, e')) (hbody : op.body = some body)
    (hcontent : body.content ≠ []) :
    (∃ m ∈ methods, ∃ plan, m.Sends body plan) ↔
      (∃ entry ∈ body.content, entry.1 ≠ "*/*") ∨
        setting.options.defaultContentType = "*/*" ∧ op.declaredMediaTypes = [] := by
  obtain ⟨typePrefix, hmethods⟩ := forall₂_of_emit h
  constructor
  · rintro ⟨m, hm, hsends⟩
    obtain ⟨mediaType, hmediaType, name, d, d', hemitted⟩ := Module.exists_left_of_mem hmethods hm
    have hsupplied := (exists_sends_iff hemitted hbody).1 hsends
    obtain ⟨entry, hentry, hsame⟩ := (Operation.bodyFor?_isSome_iff hbody).1 hsupplied
    by_cases hwildcard : entry.1 = "*/*"
    · obtain rfl : mediaType = "*/*" := by
        rw [hwildcard] at hsame
        exact Value.eq_of_text_same hsame
      exact .inr (Operation.of_wildcard_mem_participatingMediaTypes hmediaType)
    · exact .inl ⟨entry, hentry, hwildcard⟩
  · intro hcase
    obtain ⟨mediaType, hmediaType, entry, hentry, hsame⟩ : ∃ mediaType ∈
        op.participatingMediaTypes setting.options.defaultContentType,
        ∃ entry ∈ body.content, mediaType = entry.1 ∨ entry.1.same mediaType = true := by
      rcases hcase with ⟨entry, hentry, hown⟩ | ⟨hdefault, hnone⟩
      · obtain ⟨mediaType, hmediaType, hsame⟩ :=
          Operation.exists_participating_of_own hbody hentry hown _
        exact ⟨mediaType, hmediaType, entry, hentry, hsame⟩
      · obtain ⟨entry, hentry⟩ := List.exists_mem_of_ne_nil _ hcontent
        have hwildcard := Operation.eq_wildcard_of_declaredMediaTypes_eq_nil hbody hnone hentry
        refine ⟨"*/*", ?_, entry, hentry, .inl hwildcard.symm⟩
        rw [Operation.participatingMediaTypes_of_eq_nil hnone, hdefault]
        exact List.mem_singleton_self _
    obtain ⟨m, hm, name, d, d', hemitted⟩ :=
      Module.exists_left_of_mem hmethods.flip hmediaType
    have hfound : entry.1.same mediaType = true := by
      rcases hsame with rfl | hsame
      · exact same_self_of_emitMethod hemitted hbody
      · exact hsame
    exact ⟨m, hm, (exists_sends_iff hemitted hbody).2
      ((Operation.bodyFor?_isSome_iff hbody).2 ⟨entry, hentry, hfound⟩)⟩

/-- An operation that posts a body with content of some media types. -/
def postWith (mediaTypes : List Value) : Operation :=
  petsWith [] (some {
    content := mediaTypes.map fun mediaType ↦ (mediaType, ⟨none⟩)
    required := true })

theorem requestBody_sent_ownType :
    ∃ methods e, exec (emit ⟨[], {}⟩ (postWith ["*/*", "text/plain"])) .fresh =
        (.ok methods, e) ∧
      ∃ m ∈ methods, ∃ plan, m.Sends ⟨[("*/*", ⟨none⟩), ("text/plain", ⟨none⟩)], true⟩ plan := by
  have hresult : (exec (emit ⟨[], {}⟩ (postWith ["*/*", "text/plain"])) .fresh).1.toOption.map
      (·.map (·.name)) = some ["pets"] := by decide +kernel
  obtain ⟨methods, e, hmethods, -⟩ := exists_exec_of_map hresult
  have hown : ("text/plain" : Value) ≠ "*/*" := by simp
  exact ⟨methods, e, hmethods, (requestBody_sent_iff hmethods rfl (List.cons_ne_nil _ _)).2
    (.inl ⟨("text/plain", ⟨none⟩), .tail _ (.head _), hown⟩)⟩

/-- A required body for all media types is left out. -/
theorem requestBody_dropped_wildcard :
    ∃ methods e, exec (emit ⟨[], {}⟩ (postWith ["*/*"])) .fresh = (.ok methods, e) ∧
      ¬ ∃ m ∈ methods, ∃ plan, m.Sends ⟨[("*/*", ⟨none⟩)], true⟩ plan := by
  have hresult : (exec (emit ⟨[], {}⟩ (postWith ["*/*"])) .fresh).1.toOption.map
      (·.map (·.body.isNone)) = some [true] := by decide +kernel
  obtain ⟨methods, e, hmethods, hnone⟩ := exists_exec_of_map hresult
  refine ⟨methods, e, hmethods, ?_⟩
  rintro ⟨m, hm, plan, hsends⟩
  have hmem : m.body.isNone ∈ [true] := hnone ▸ List.mem_map_of_mem hm
  rw [hsends.body_eq] at hmem
  cases List.mem_singleton.1 hmem

end Emission

end ApiClient

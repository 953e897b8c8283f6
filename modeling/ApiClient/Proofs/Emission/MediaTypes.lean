import ApiClient.Proofs.Emission.MethodNames

/-!
# Media types of methods

An operation has a method for each media type that takes part in it, in order. A media type that
the operation declares is one of its request body or of a successful response, so its method sends
a body of that type or accepts it.
-/

namespace ApiClient

open Work

namespace Value

/-- What equals some value and can be a key equals itself. A value that contains itself equals
nothing. -/
theorem same_self_of_same : ∀ {v w : Value}, v.hashable = true → v.same w = true →
    v.same v = true
  | null, _, _, _ => by rw [same]
  | text s, _, _, _ => by simp [same]
  | bytes octets, _, _, _ => by simp [same]
  | date d, _, _, _ => by simp [same]
  | moment m, _, _, _ => by simp [same, Moment.same]
  | bool b, _, _, _ => by simp [same, sameNumber, number?]
  | int n, _, _, _ => by simp [same, sameNumber, number?]
  | float x, _, _, _ => by
    cases x <;> simp [same, sameNumber, number?, Binary64.same]
  | pair a b, w, hkey, h => by
    cases w with
    | pair c d =>
      simp only [hashable, same, Bool.and_eq_true] at hkey h ⊢
      exact ⟨same_self_of_same hkey.1 h.1, same_self_of_same hkey.2 h.2⟩
    | _ => simp [same, sameNumber, number?] at h
  | knot mark v, w, _, h => by
    cases w <;> simp [same, sameNumber, number?] at h

end Value

namespace Operation

variable {op : Operation} {mediaType : Value}

theorem participatingMediaTypes_ne_nil (op : Operation) (default : Value) :
    op.participatingMediaTypes default ≠ [] := by
  unfold participatingMediaTypes
  split
  · exact List.cons_ne_nil _ _
  · assumption

theorem pairwise_addMediaType {mediaTypes : List Value}
    (h : mediaTypes.Pairwise fun first second ↦ second.same first = false) (added : Value) :
    (addMediaType mediaTypes added).Pairwise fun first second ↦ second.same first = false := by
  unfold addMediaType
  split
  · exact h
  · next hnew =>
    refine List.pairwise_append.2 ⟨h, List.pairwise_singleton _ _, ?_⟩
    intro first hfirst second hlast
    rw [List.mem_singleton.1 hlast, Bool.eq_false_iff]
    intro hsame
    exact hnew (Bool.or_eq_true_iff.2 (.inr (List.any_eq_true.2 ⟨first, hfirst, hsame⟩)))

/-- No media type takes part twice. -/
theorem pairwise_participatingMediaTypes (op : Operation) (default : Value) :
    (op.participatingMediaTypes default).Pairwise fun first second ↦ second.same first = false := by
  have hdeclared : op.declaredMediaTypes.Pairwise fun first second ↦ second.same first = false :=
    List.foldlRecOn _ addMediaType List.Pairwise.nil fun _ h added _ ↦ pairwise_addMediaType h added
  unfold participatingMediaTypes
  split
  · exact List.pairwise_singleton _ _
  · exact hdeclared

theorem mem_of_mem_addMediaType {mediaTypes : List Value} {added : Value}
    (h : mediaType ∈ addMediaType mediaTypes added) :
    mediaType ∈ mediaTypes ∨ mediaType = added := by
  unfold addMediaType at h
  split at h
  · exact .inl h
  · rwa [List.mem_append, List.mem_singleton] at h

theorem mem_of_mem_foldl_addMediaType {added mediaTypes : List Value}
    (h : mediaType ∈ added.foldl addMediaType mediaTypes) :
    mediaType ∈ mediaTypes ∨ mediaType ∈ added := by
  induction added generalizing mediaTypes with
  | nil => exact .inl h
  | cons first rest ih =>
    rcases ih h with hmem | hrest
    · refine (mem_of_mem_addMediaType hmem).imp_right ?_
      rintro rfl
      exact List.mem_cons_self
    · exact .inr (List.mem_cons_of_mem _ hrest)

/-- A declared media type is one of the request body or of a successful response. -/
theorem exists_content_of_declared (h : mediaType ∈ op.declaredMediaTypes) :
    (∃ body, op.body = some body ∧ mediaType ∈ body.content.map (·.1)) ∨
      ∃ r ∈ op.responses.filter (·.isSuccess), mediaType ∈ r.content.map (·.1) := by
  unfold declaredMediaTypes at h
  rcases mem_of_mem_foldl_addMediaType h with hnil | hmem
  · cases hnil
  · rcases List.mem_append.1 hmem with hbody | hresponse
    · cases hop : op.body with
      | none =>
        rw [hop] at hbody
        cases hbody
      | some body =>
        rw [hop] at hbody
        exact .inl ⟨body, rfl, hbody⟩
    · exact .inr (List.mem_flatMap.1 hresponse)

end Operation

/-- A media type that is looked up where it stands, and that equals itself if it can be a key, is
found. -/
theorem Content.isSome_of_find? {content : Content} {mediaType : Value} {found : Option Payload}
    (h : content.find? mediaType = .ok found) (hmem : mediaType ∈ content.map (·.1))
    (hself : mediaType.hashable = true → mediaType.same mediaType = true) : found.isSome := by
  unfold find? at h
  split at h
  · next hkey =>
    obtain rfl := Except.ok.inj h
    obtain ⟨entry, hentry, hname⟩ := List.mem_map.1 hmem
    rw [Option.isSome_map, List.find?_isSome]
    exact ⟨entry, hentry, by rw [hname]; exact hself hkey⟩
  · cases h

/-- A media type is accepted if it is found in a successful response. -/
theorem Operation.accepts_of_mem {op : Operation} {mediaType : Value} {accepted : Bool}
    (h : op.accepts mediaType = .ok accepted) {r : Response}
    (hr : r ∈ op.responses.filter (·.isSuccess)) (hmem : mediaType ∈ r.content.map (·.1))
    (hself : mediaType.hashable = true → mediaType.same mediaType = true) : accepted = true := by
  unfold accepts at h
  generalize op.responses.filter (·.isSuccess) = responses at h hr
  induction responses with
  | nil => cases hr
  | cons first rest ih =>
    rw [List.anyM_cons] at h
    cases hfound : first.content.find? mediaType with
    | error fault =>
      rw [hfound] at h
      cases h
    | ok found =>
      rw [hfound] at h
      rcases List.mem_cons.1 hr with rfl | hrest
      · have hsome := Content.isSome_of_find? hfound hmem hself
        cases found with
        | none => cases hsome
        | some payload => exact (Except.ok.inj h).symm
      · cases found with
        | none => exact ih h hrest
        | some payload => exact (Except.ok.inj h).symm

/-- The method sends a body of a media type or accepts it. -/
def Method.Carries (m : Method) (mediaType : Value) : Prop :=
  (∃ plan, m.body = some plan ∧ plan.mediaType = mediaType) ∨ m.accept = some mediaType

namespace Emission

/-- A media type that is no text is the default one. -/
theorem same_self_of_variantName {setting : Setting} {raw mediaType named : Value}
    (h : variantName setting raw mediaType true = .ok named) (hkey : mediaType.hashable = true) :
    mediaType.same mediaType = true := by
  unfold variantName at h
  cases hdefault : mediaType.same setting.options.defaultContentType with
  | true => exact Value.same_self_of_same hkey hdefault
  | false =>
    rw [hdefault] at h
    obtain ⟨plain, -, h⟩ := Module.of_bind_eq_ok h
    obtain ⟨text, htext, -⟩ := Module.of_bind_eq_ok h
    cases mediaType with
    | text => simp [Value.same]
    | _ => cases htext

theorem isSome_of_bodyArgument {components : Components} {op : Operation}
    {mediaType rawPrefix : Value} {names names' : Name.Registry} {d d' : Draft}
    {argument : Option Argument} {body : RequestBody}
    (h : exec (bodyArgument components op mediaType rawPrefix names) d =
      (.ok (argument, names'), d'))
    (hbody : op.body = some body) (hmem : mediaType ∈ body.content.map (·.1))
    (hself : mediaType.hashable = true → mediaType.same mediaType = true) : argument.isSome := by
  unfold bodyArgument at h
  rw [hbody] at h
  obtain ⟨found, hfound, h⟩ := of_exec_lift_bind h
  have hsome := Content.isSome_of_find? hfound hmem hself
  rcases found with _ | ⟨_ | s⟩
  · cases hsome
  · obtain ⟨hint, d₁, -, h⟩ := of_exec_bind h
    rw [(Prod.mk.inj (exec_pure_eq_ok.1 h).1).1]
    rfl
  · obtain ⟨plain, -, h⟩ := of_exec_lift_bind h
    obtain ⟨hint, d₁, -, h⟩ := of_exec_bind h
    rw [(Prod.mk.inj (exec_pure_eq_ok.1 h).1).1]
    rfl

/-- The method for a media type that the operation declares carries it. -/
theorem carries_of_emitMethod {setting : Setting} {op : Operation} {mediaType typePrefix : Value}
    {name : String} {d d' : Draft} {m : Method}
    (h : exec (emitMethod setting op mediaType name typePrefix) d = (.ok m, d'))
    (hdeclared : mediaType ∈ op.declaredMediaTypes) : m.Carries mediaType := by
  obtain ⟨parts⟩ := methodParts h
  -- The method looks its media type up among the keys, where it stands if it equals itself.
  have hself : mediaType.hashable = true → mediaType.same mediaType = true :=
    same_self_of_variantName parts.rawPrefix_eq
  rcases Operation.exists_content_of_declared hdeclared with ⟨body, hbody, hmem⟩ | ⟨r, hr, hmem⟩
  · have hsome := isSome_of_bodyArgument parts.body_eq hbody hmem hself
    obtain ⟨argument, hargument⟩ := Option.isSome_iff_exists.1 hsome
    have hplan := parts.plan_eq
    rw [hargument] at hplan
    obtain ⟨text, -, hplan⟩ := Module.of_bind_eq_ok hplan
    exact .inl ⟨_, parts.method_body.trans (Except.ok.inj hplan).symm, rfl⟩
  · refine .inr ?_
    rw [parts.method_accept, Operation.accepts_of_mem parts.accepts_eq hr hmem hself, if_pos rfl]

end Emission

/-- A method of an operation for a media type. It carries the media type, unless that is none of
the operation's own. -/
structure Operation.MethodFor (op : Operation) (mediaType : Value) (m : Method) : Prop where
  mediaType_eq : m.mediaType = mediaType
  path_eq : m.path = op.path
  httpMethod_eq : m.httpMethod = upperText op.method
  operationId_eq : m.operationId = op.id
  carries : mediaType ∈ op.declaredMediaTypes → m.Carries mediaType

namespace Emission

theorem methodFor_of_emitMethod {setting : Setting} {op : Operation} {mediaType typePrefix : Value}
    {name : String} {d d' : Draft} {m : Method}
    (h : exec (emitMethod setting op mediaType name typePrefix) d = (.ok m, d')) :
    op.MethodFor mediaType m := by
  obtain ⟨parts⟩ := methodParts h
  exact ⟨parts.method_mediaType, parts.method_path, parts.method_httpMethod,
    parts.method_operationId, carries_of_emitMethod h⟩

/-- The methods are those of the media types, in order, each from the draft that the one before
left. -/
theorem forall₂_of_emitMethods {setting : Setting} {op : Operation} {rawName typePrefix : Value}
    {several : Bool} {mediaTypes : List Value} {e e' : Emission} {methods : List Method}
    (h : exec (emitMethods setting op rawName typePrefix several mediaTypes) e =
      (.ok methods, e')) :
    List.Forall₂ (fun mediaType m ↦ ∃ name d d',
        exec (emitMethod setting op mediaType name typePrefix) d = (.ok m, d'))
      mediaTypes methods := by
  induction mediaTypes generalizing e e' methods with
  | nil =>
    obtain ⟨rfl, -⟩ := exec_pure_eq_ok.1 h
    exact .nil
  | cons mediaType mediaTypes ih =>
    unfold emitMethods at h
    obtain ⟨name, e₁, -, h⟩ := of_exec_bind h
    obtain ⟨m, e₂, hm, h⟩ := of_exec_bind h
    obtain ⟨rest, e₃, hrest, h⟩ := of_exec_bind h
    obtain ⟨rfl, -⟩ := exec_pure_eq_ok.1 h
    rw [exec_drafting, Prod.mk.injEq] at hm
    exact .cons ⟨name, e₁.draft, _, Prod.ext hm.1 rfl⟩ (ih hrest)

theorem forall₂_of_emit {setting : Setting} {op : Operation} {e e' : Emission}
    {methods : List Method} (h : exec (emit setting op) e = (.ok methods, e')) :
    ∃ typePrefix, List.Forall₂ (fun mediaType m ↦ ∃ name d d',
        exec (emitMethod setting op mediaType name typePrefix) d = (.ok m, d'))
      (op.participatingMediaTypes setting.options.defaultContentType) methods := by
  unfold emit at h
  obtain ⟨⟨rawName, typePrefix⟩, e₁, -, h⟩ := of_exec_bind h
  exact ⟨typePrefix, forall₂_of_emitMethods h⟩

/-- An emitted operation has one method for each participating media type, in order. -/
theorem methodsFor_of_emit {setting : Setting} {op : Operation} {e e' : Emission}
    {methods : List Method} (h : exec (emit setting op) e = (.ok methods, e')) :
    List.Forall₂ op.MethodFor (op.participatingMediaTypes setting.options.defaultContentType)
      methods := by
  obtain ⟨typePrefix, hmethods⟩ := forall₂_of_emit h
  exact hmethods.imp fun _ _ ⟨_, _, _, hm⟩ ↦ methodFor_of_emitMethod hm

end Emission

end ApiClient

import ApiClient.Proofs.Draft.Aging
import ApiClient.Proofs.Emission.Method

/-!
# Sites of an emission

The renderings that start while an operation is emitted: in each of its methods one for the body,
one for each parameter, and one for each successful response that declares a JSON schema. The sites
are given in the order of the emission, by the drafts that it goes through.
-/

namespace ApiClient.Emission

open Work Draft Drafting

variable {known : Name.Registry} {components : Components} {setting : Setting}

/-! ## Sites of a method -/

/-- The rendering of a schema. -/
def schemaSites (s : Schema) (raw : String) : Sites Draft :=
  .next (typeOf s) fun e d ↦ [⟨d, e, raw⟩]

/-- The rendering of the body, when the body supplies the media type. -/
def bodySites (op : Operation) (mediaType rawPrefix : Value) : Sites Draft :=
  match op.body with
  | none => .none
  | some body => .next (liftM (body.content.find? mediaType)) fun payload ↦
    match payload.bind (·.schema) with
    | none => .none
    | some s => .next (liftM rawPrefix.plain?) fun plain ↦ schemaSites s (plain ++ " request")

/-- The rendering of a parameter, once it is named. -/
def parameterSites (typePrefix : Value) (p : Parameter) (names : Name.Registry) : Sites Draft :=
  .next (liftM (names.holds p.name)) fun taken ↦
    .next (liftM (names.resolveValue
      (if taken then .text (p.place.text ++ " " ++ p.name.plain) else p.name))) fun _ ↦
      .next (liftM typePrefix.plain?) fun plain ↦
        schemaSites p.schema (plain ++ " " ++ p.name.plain)

/-- The renderings of parameters in order. -/
def parametersSites (components : Components) (typePrefix : Value) :
    List Parameter → Name.Registry → Sites Draft
  | [], _ => .none
  | p :: ps, names => (parameterSites typePrefix p names).or <|
    .next (parameterArgument components typePrefix p names) fun (_, names) ↦
      parametersSites components typePrefix ps names

/-- The rendering of a successful response, when its type is neither binary nor open and the media
type is one of JSON. -/
def outcomeSites (r : Response) (mediaType : Value) (raw : String) : Sites Draft :=
  .next (liftM (r.payload? mediaType)) fun payload ↦
    match payload.bind (·.schema) with
    | none => .none
    | some s => .next (typeOf s) fun e ↦
      match e.collapse with
      | .binary => .none
      | e => .next (liftM mediaType.asText) fun text ↦
        if !MediaType.isJson text then .none
        else
          match e with
          | .anything => .none
          | e => fun d ↦ [⟨d, e, raw⟩]

/-- The rendering of a declared response, when it has a branch below 400. -/
def branchSites (mediaType rawPrefix : Value) (r : Response) (first : Bool) : Sites Draft :=
  if r.isDefault then .none
  else
    .next (liftM (StatusPattern.parse? r.status)) fun
      | none => .none
      | some condition =>
        if 400 ≤ condition.least then .none
        else
          .next (liftM (responseName rawPrefix r first)) fun raw ↦ outcomeSites r mediaType raw

/-- The renderings of declared responses in their order. -/
def branchesSites (components : Components) (location : String) (mediaType rawPrefix : Value) :
    List Response → Bool → Sites Draft
  | [], _ => .none
  | r :: rs, first => (branchSites mediaType rawPrefix r first).or <|
    .next (branchFor components location mediaType rawPrefix r first) fun (_, first) ↦
      branchesSites components location mediaType rawPrefix rs first

/-- The renderings of a method: of the body, of the parameters, and of the successful responses. -/
def methodSites (setting : Setting) (op : Operation) (mediaType typePrefix : Value) :
    Sites Draft :=
  .next (liftM (variantName setting typePrefix mediaType true)) fun rawPrefix ↦
    (bodySites op mediaType rawPrefix).or <|
    .next (bodyArgument setting.components op mediaType rawPrefix .forArguments)
      fun (body, names) ↦
    let parameters := Operation.orderParameters op.parameters
    (parametersSites setting.components typePrefix parameters names).or <|
    .next (parameterArguments setting.components typePrefix parameters names) fun _ ↦
    .next (liftM (bodyPlan mediaType body)) fun _ ↦
    .next (liftM (op.accepts mediaType)) fun _ ↦
      branchesSites setting.components op.location mediaType rawPrefix op.responses true

theorem starts_renderSchema (s : Schema) (raw : String) :
    Starts id known components (renderSchema components s raw) (schemaSites s raw) :=
  .next (quiet_typeOf s) fun e ↦ starts_render e raw

theorem starts_bodyArgument (op : Operation) (mediaType rawPrefix : Value)
    (names : Name.Registry) :
    Starts id known components (bodyArgument components op mediaType rawPrefix names)
      (bodySites op mediaType rawPrefix) := by
  unfold bodyArgument bodySites
  cases op.body with
  | none => exact .quiet (.pure _)
  | some body =>
    apply Starts.next (.lift _)
    intro payload
    cases payload with
    | none => exact .quiet (.pure _)
    | some payload =>
      simp only [Option.bind_some]
      cases payload.schema with
      | none => exact .quiet (.bind (.pure _) fun _ ↦ .pure _)
      | some s =>
        apply Starts.next (.lift _)
        intro plain
        exact (starts_renderSchema s _).first fun _ ↦ .pure _

theorem starts_parameterArgument (typePrefix : Value) (p : Parameter) (names : Name.Registry) :
    Starts id known components (parameterArgument components typePrefix p names)
      (parameterSites typePrefix p names) := by
  unfold parameterArgument
  apply Starts.next (.lift _)
  intro taken
  apply Starts.next (.lift _)
  intro named
  apply Starts.next (.lift _)
  intro plain
  exact (starts_renderSchema p.schema _).first fun _ ↦ .pure _

theorem starts_parameterArguments (typePrefix : Value) (ps : List Parameter)
    (names : Name.Registry) :
    Starts id known components (parameterArguments components typePrefix ps names)
      (parametersSites components typePrefix ps names) := by
  induction ps generalizing names with
  | nil => exact .quiet (.pure _)
  | cons p ps ih =>
    apply (starts_parameterArgument typePrefix p names).bind
    rintro ⟨argument, names'⟩
    exact (ih names').first fun _ ↦ .pure _

theorem starts_successOutcome (r : Response) (mediaType : Value) (raw : String) :
    Starts id known components (successOutcome components r mediaType raw)
      (outcomeSites r mediaType raw) := by
  unfold successOutcome outcomeSites
  apply Starts.next (.lift _)
  intro payload
  cases payload.bind (·.schema) with
  | none => exact .quiet (.pure _)
  | some s =>
    apply Starts.next (quiet_typeOf s)
    intro e
    cases e.collapse with
    | binary => exact .quiet (.pure _)
    | anything =>
      apply Starts.next (.lift _)
      intro text
      split <;> exact .quiet (.pure _)
    | _ =>
      apply Starts.next (.lift _)
      intro text
      split
      · exact .quiet (.pure _)
      · exact (starts_render _ raw).first fun _ ↦ .pure _

theorem starts_branchFor (location : String) (mediaType rawPrefix : Value) (r : Response)
    (first : Bool) :
    Starts id known components (branchFor components location mediaType rawPrefix r first)
      (branchSites mediaType rawPrefix r first) := by
  unfold branchFor branchSites
  split
  · exact .quiet (.pure _)
  · apply Starts.next (.lift _)
    intro condition
    cases condition with
    | none => exact .quiet (.bind (quiet_report _) fun _ ↦ .pure _)
    | some condition =>
      simp only
      split
      · exact .quiet (.pure _)
      · apply Starts.next (.lift _)
        intro raw
        exact (starts_successOutcome r mediaType raw).first fun _ ↦ .pure _

theorem starts_branchesFor (location : String) (mediaType rawPrefix : Value) (rs : List Response)
    (first : Bool) :
    Starts id known components (branchesFor components location mediaType rawPrefix rs first)
      (branchesSites components location mediaType rawPrefix rs first) := by
  induction rs generalizing first with
  | nil => exact .quiet (.pure _)
  | cons r rs ih =>
    apply (starts_branchFor location mediaType rawPrefix r first).bind
    rintro ⟨b, first'⟩
    exact (ih first').first fun _ ↦ .pure _

theorem starts_emitMethod (op : Operation) (mediaType : Value) (name : String)
    (typePrefix : Value) :
    Starts id known setting.components (emitMethod setting op mediaType name typePrefix)
      (methodSites setting op mediaType typePrefix) := by
  unfold emitMethod
  apply Starts.next (.lift _)
  intro rawPrefix
  apply (starts_bodyArgument op mediaType rawPrefix _).bind
  rintro ⟨body, names⟩
  apply (starts_parameterArguments typePrefix _ names).bind
  intro parameters
  apply Starts.next (.lift _)
  intro plan
  apply Starts.next (.lift _)
  intro accepts
  exact (starts_branchesFor op.location mediaType rawPrefix op.responses true).first
    fun _ ↦ .pure _

/-! ## Sites of an operation -/

/-- The renderings of an operation's methods for some of its media types. -/
def methodsSites (setting : Setting) (op : Operation) (rawName typePrefix : Value)
    (several : Bool) : List Value → Sites Emission
  | [] => .none
  | mediaType :: mediaTypes =>
    .next (nameVariant setting rawName mediaType several) fun name ↦
      Sites.or (fun e ↦ methodSites setting op mediaType typePrefix e.draft) <|
      .next (drafting (emitMethod setting op mediaType name typePrefix)) fun _ ↦
        methodsSites setting op rawName typePrefix several mediaTypes

/-- The renderings of an operation. -/
def operationSites (setting : Setting) (op : Operation) : Sites Emission :=
  .next (prepare setting op) fun (rawName, typePrefix) ↦
    let mediaTypes := op.participatingMediaTypes setting.options.defaultContentType
    methodsSites setting op rawName typePrefix (1 < mediaTypes.length) mediaTypes

theorem starts_drafting {α : Type} {work : Drafting α} {R : Sites Draft}
    (h : Starts id known components work R) :
    Starts Emission.draft known components (drafting work) (fun e ↦ R e.draft) where
  ages hS e hR := h.ages hS e.draft hR
  after e := h.after e.draft

theorem quiet_drafting {α : Type} {work : Drafting α} (h : Quiet id known components work) :
    Quiet Emission.draft known components (drafting work) :=
  fun S e ↦ h S e.draft

theorem quiet_nameVariant (rawName mediaType : Value) (several : Bool) :
    Quiet Emission.draft known components (nameVariant setting rawName mediaType several) := by
  unfold nameVariant nameMethod
  apply Quiet.bind (.lift _)
  intro raw
  apply Quiet.bind .get
  intro e
  apply Quiet.bind (.lift _)
  intro named
  exact .bind (.modify fun _ ↦ rfl) fun _ ↦ .pure _

theorem quiet_remarkDefault (op : Operation) :
    Quiet Emission.draft known components (remarkDefault setting op) := by
  unfold remarkDefault
  split
  · exact .bind (.lift _) fun plain ↦ quiet_drafting (quiet_report _)
  · exact .pure _

theorem quiet_chooseRawName (op : Operation) :
    Quiet Emission.draft known components (chooseRawName op) := by
  unfold chooseRawName
  apply Quiet.bind .get
  intro e
  apply Quiet.bind (.lift _)
  intro rawName
  apply Quiet.bind (.lift _)
  intro held
  split
  · apply Quiet.bind (.lift _)
    intro literal
    exact .bind (quiet_drafting (quiet_report _)) fun _ ↦ .pure _
  · exact .pure _

theorem quiet_chooseTypePrefix (op : Operation) :
    Quiet Emission.draft known components (chooseTypePrefix op) := by
  unfold chooseTypePrefix
  apply Quiet.bind .get
  intro e
  apply Quiet.bind (.lift _)
  intro typePrefix
  exact .bind (.modify fun _ ↦ rfl) fun _ ↦ .pure _

theorem quiet_prepare (op : Operation) :
    Quiet Emission.draft known components (prepare setting op) := by
  unfold prepare
  apply Quiet.bind (quiet_remarkDefault op)
  intro _
  apply Quiet.bind (quiet_chooseRawName op)
  intro rawName
  exact .bind (quiet_chooseTypePrefix op) fun _ ↦ .pure _

theorem starts_emitMethods (op : Operation) (rawName typePrefix : Value) (several : Bool)
    (mediaTypes : List Value) :
    Starts Emission.draft known setting.components
      (emitMethods setting op rawName typePrefix several mediaTypes)
      (methodsSites setting op rawName typePrefix several mediaTypes) := by
  induction mediaTypes with
  | nil => exact .quiet (.pure _)
  | cons mediaType mediaTypes ih =>
    apply Starts.next (quiet_nameVariant rawName mediaType several)
    intro name
    apply (starts_drafting (starts_emitMethod op mediaType name typePrefix)).bind
    intro m
    exact ih.first fun _ ↦ .pure _

theorem starts_emit (op : Operation) :
    Starts Emission.draft known setting.components (emit setting op) (operationSites setting op) :=
  .next (quiet_prepare op) fun (rawName, typePrefix) ↦
    starts_emitMethods op rawName typePrefix _ _

end ApiClient.Emission

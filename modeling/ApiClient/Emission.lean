import ApiClient.Draft
import ApiClient.Grouping
import ApiClient.Method

/-!
# Emission of methods

An operation becomes one method for each media type that takes part in it. Types that have no
name in the description are declared along the way, under names that begin with the operation's
identifier.
-/

namespace ApiClient

/-- A draft, the identifiers of the operations emitted so far in any class, and the method names
of the class that is being filled. -/
structure Emission where
  draft : Draft
  operationIds : List Value
  methods : Name.Registry

/-- Work on an emission that may end in a fault; what it did before stays. -/
abbrev Emitting := ExceptT Fault (StateM Emission)

namespace Emission

/-- What an emission depends on and does not change. -/
structure Setting where
  components : Components
  options : Options

def drafting {α : Type} (work : Drafting α) : Emitting α :=
  fun emission =>
    let (result, draft) := work.run.run emission.draft
    (result, { emission with draft })

def report (d : Diagnostic) : Emitting Unit := drafting (Drafting.report d)

/-- The name of a method for a raw name. -/
def nameMethod (raw : Value) : Emitting String := do
  let (name, methods) ← (← get).methods.resolveValue raw
  modify fun emission => { emission with methods }
  return name

/-- The annotation of a schema's type. -/
def renderSchema (components : Components) (s : Schema) (raw : String) : Drafting String := do
  Drafting.render components (← Drafting.typeOf s) raw

/-- The body argument, when the body supplies the media type. -/
def bodyArgument (components : Components) (op : Operation) (mediaType rawPrefix : Value)
    (names : Name.Registry) : Drafting (Option Argument × Name.Registry) := do
  match op.body with
  | none => return (none, names)
  | some body =>
    match ← body.content.find? mediaType with
    | none => return (none, names)
    | some payload =>
      let (name, names) := names.resolve "body"
      let hint ← match payload.schema with
        | none => pure "Any"
        | some s => renderSchema components s ((← rawPrefix.plain?) ++ " request")
      return (some { name, hint, required := body.required }, names)

/-- Argument and step for a parameter. A name that another parameter has is qualified by the
place. -/
def parameterArgument (components : Components) (typePrefix : Value) (p : Parameter)
    (names : Name.Registry) : Drafting ((Argument × Step) × Name.Registry) := do
  let taken ← names.holds p.name
  let (name, names) ← names.resolveValue
    (if taken then .text (p.place.text ++ " " ++ p.name.plain) else p.name)
  let hint ← renderSchema components p.schema ((← typePrefix.plain?) ++ " " ++ p.name.plain)
  return (({ name, hint, required := p.required },
    { place := p.place, key := p.name, argument := name, required := p.required }), names)

/-- Arguments and steps for parameters in order. -/
def parameterArguments (components : Components) (typePrefix : Value) :
    List Parameter → Name.Registry → Drafting (List (Argument × Step))
  | [], _ => return []
  | p :: ps, names => do
    let (argument, names) ← parameterArgument components typePrefix p names
    return argument :: (← parameterArguments components typePrefix ps names)

/-- Outcome and annotation of a successful response. -/
def successOutcome (components : Components) (r : Response) (mediaType : Value) (raw : String) :
    Drafting (Outcome × String) := do
  match (← r.payload? mediaType).bind (·.schema) with
  | none => return (.text, "str")
  | some s =>
    match (← Drafting.typeOf s).collapse with
    | .binary => return (.binary, "bytes")
    | e =>
      if !MediaType.isJson (← mediaType.asText) then return (.text, "str")
      else
        match e with
        | .anything => return (.json, "Any")
        | e => return (.json, ← Drafting.render components e raw)

/-- The raw name for the type of a successful response. It is named with its status unless it is
the first. -/
def responseName (rawPrefix : Value) (r : Response) (first : Bool) : Except Fault String := do
  return (← rawPrefix.plain?) ++ " response" ++ (if first then "" else " " ++ r.status)

/-- The branch for a declared response, unless it has none, and whether the successful response to
come is still the first. -/
def branchFor (components : Components) (location : String) (mediaType rawPrefix : Value)
    (r : Response) (first : Bool) : Drafting (Option Branch × Bool) := do
  if r.isDefault then return (none, first)
  else
    match ← StatusPattern.parse? r.status with
    | none =>
      Drafting.report
        (.warning location ("unrecognized status " ++ quote r.status ++ " ignored"))
      return (none, first)
    | some condition =>
      if 400 ≤ condition.least then
        return (some { status := r.status, condition, outcome := .error, hint := "" }, first)
      else
        let raw ← responseName rawPrefix r first
        let (outcome, hint) ← successOutcome components r mediaType raw
        return (some { status := r.status, condition, outcome, hint }, false)

/-- The branches for declared responses in their order. -/
def branchesFor (components : Components) (location : String) (mediaType rawPrefix : Value) :
    List Response → Bool → Drafting (List Branch)
  | [], _ => return []
  | r :: rs, first => do
    let (b, first) ← branchFor components location mediaType rawPrefix r first
    return b.toList ++ (← branchesFor components location mediaType rawPrefix rs first)

/-- A raw name with the suffix of a media type. -/
def withSuffix (raw mediaType : Value) : Except Fault Value := do
  return .text ((← raw.plain?) ++ " " ++ Name.mediaTypeSuffix (← mediaType.asText))

/-- A raw name for a media type: with its suffix if `suffixed` says so, unless the type is the
default one. -/
def variantName (setting : Setting) (raw mediaType : Value) (suffixed : Bool) :
    Except Fault Value :=
  if suffixed && !mediaType.same setting.options.defaultContentType then withSuffix raw mediaType
  else .ok raw

/-- A body argument stands before the parameters if it is required, and after them if not. -/
def placeBody (body : Option Argument) (parameters : List Argument) : List Argument :=
  match body with
  | none => parameters
  | some a => if a.required then a :: parameters else parameters ++ [a]

def bodyPlan (mediaType : Value) : Option Argument → Except Fault (Option BodyPlan)
  | none => .ok none
  | some a => do
    return some {
      argument := a.name
      mediaType
      encoding := .ofMediaType (← mediaType.asText)
      required := a.required }

/-- The method of an operation for a media type. Types without a name are named after
`typePrefix`. -/
def emitMethod (setting : Setting) (op : Operation) (mediaType : Value) (name : String)
    (typePrefix : Value) : Drafting Method := do
  let rawPrefix ← variantName setting typePrefix mediaType true
  let (bodyArgument, names) ←
    bodyArgument setting.components op mediaType rawPrefix .forArguments
  let parameters ← parameterArguments setting.components typePrefix
    (Operation.orderParameters op.parameters) names
  let body ← bodyPlan mediaType bodyArgument
  let accepts ← op.accepts mediaType
  let branches ← branchesFor setting.components op.location mediaType rawPrefix op.responses true
  return {
    name
    operationId := op.id
    mediaType
    httpMethod := upperText op.method
    path := op.path
    arguments := placeBody bodyArgument (parameters.map (·.1))
    steps := parameters.map (·.2)
    body
    accept := if accepts then some mediaType else none
    branches := arrange branches
    returns := returnHint (arrange branches)
    doc := op.doc }

/-- The name of an operation's method for a media type. When there are several media types, all but
the default one append theirs. -/
def nameVariant (setting : Setting) (rawName mediaType : Value) (several : Bool) :
    Emitting String := do
  nameMethod (← variantName setting rawName mediaType several)

/-- The methods of an operation for some of its media types. -/
def emitMethods (setting : Setting) (op : Operation) (rawName typePrefix : Value)
    (several : Bool) : List Value → Emitting (List Method)
  | [] => return []
  | mediaType :: mediaTypes => do
    let name ← nameVariant setting rawName mediaType several
    let m ← drafting (emitMethod setting op mediaType name typePrefix)
    return m :: (← emitMethods setting op rawName typePrefix several mediaTypes)

/-- Says so when the media type of an operation's method is not its own. -/
def remarkDefault (setting : Setting) (op : Operation) : Emitting Unit := do
  if op.declaredMediaTypes.isEmpty then
    report (.info op.location
      ("no request or success media type declared; emitting a "
        ++ (← setting.options.defaultContentType.plain?) ++ " variant"))

/-- The raw name of an operation's methods. One that is qualified is remarked on. -/
def chooseRawName (op : Operation) : Emitting Value := do
  let methods := (← get).methods
  let rawName ← op.rawName methods
  if ← methods.holds op.id then
    report (.warning op.location ("duplicate operationId " ++ (← op.id.literal?)))
    return rawName
  else return rawName

/-- The name that the types of an operation begin with. It is qualified when an operation of the
same identifier was emitted before, in whatever class. -/
def chooseTypePrefix (op : Operation) : Emitting Value := do
  let typePrefix ← op.typePrefix (← get).operationIds
  modify fun emission => { emission with operationIds := op.id :: emission.operationIds }
  return typePrefix

/-- Settles the raw name of an operation's methods and the name that its types begin with. -/
def prepare (setting : Setting) (op : Operation) : Emitting (Value × Value) := do
  remarkDefault setting op
  let rawName ← chooseRawName op
  let typePrefix ← chooseTypePrefix op
  return (rawName, typePrefix)

/-- Emits the methods of an operation into the current class. -/
def emit (setting : Setting) (op : Operation) : Emitting (List Method) := do
  let (rawName, typePrefix) ← prepare setting op
  let mediaTypes := op.participatingMediaTypes setting.options.defaultContentType
  emitMethods setting op rawName typePrefix (1 < mediaTypes.length) mediaTypes

end Emission

end ApiClient

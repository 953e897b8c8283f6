import ApiClient.Description
import ApiClient.Diagnostic
import ApiClient.Options
import ApiClient.Text.Entity

/-!
# Operations

An operation is a method on a path, with its parameters, request body and responses. Reading the
paths of a description yields the operations in order, with remarks on what was skipped or
derived.
-/

namespace ApiClient

/-- Where a parameter is sent. -/
inductive Place where
  | path
  | query
  | header
  deriving DecidableEq

namespace Place

def text : Place → String
  | path => "path"
  | query => "query"
  | header => "header"

def ofText? : String → Option Place
  | "path" => some path
  | "query" => some query
  | "header" => some header
  | _ => none

end Place

structure Parameter where
  name : Value
  place : Place
  required : Bool
  schema : Schema
  description : Value

/-- A media type's content. Without a schema nothing is known of its shape. -/
structure Payload where
  schema : Option Schema

/-- Payloads by media type. -/
abbrev Content := List (Value × Payload)

structure RequestBody where
  content : Content
  required : Bool

structure Response where
  status : String
  content : Content
  description : String

structure Operation where
  path : Value
  /-- The method in small letters. -/
  method : String
  tag : Value
  id : Value
  parameters : List Parameter
  body : Option RequestBody
  /-- The responses in order, one for each status. -/
  responses : List Response
  tags : List String
  summary : String
  description : String
  deprecated : Bool

namespace Content

/-- The payload of a media type. Of a value that cannot be a key it is a fault to ask. -/
def find? (content : Content) (mediaType : Value) : Except Fault (Option Payload) :=
  if mediaType.hashable then .ok ((List.find? (·.1.same mediaType) content).map (·.2))
  else .error .unsuitable

end Content

namespace Response

def isDefault (r : Response) : Bool := r.status = "default"

def isSuccess (r : Response) : Bool := r.status.startsWith "2"

/-- The payload of a media type, or else the one given for all of them. -/
def payload? (r : Response) (mediaType : Value) : Except Fault (Option Payload) := do
  return (← r.content.find? mediaType).or (← r.content.find? "*/*")

end Response

def upperText (s : String) : String := mapChars Text.upper s

def lowerText (s : String) : String := mapChars Text.lower s

/-- How diagnostics name an operation. -/
def Operation.location (op : Operation) : String := upperText op.method ++ " " ++ op.path.plain

/-! ## Descriptions in prose -/

/-- Drops marked-up tags: an opening bracket, at least one other character and the next closing
bracket. The first `skip` characters belong to a tag already met. -/
def dropTagsFrom : Nat → List Char → List Char
  | _, [] => []
  | skip + 1, _ :: cs => dropTagsFrom skip cs
  | 0, c :: cs =>
    let inside := cs.takeWhile (· ≠ '>')
    if c = '<' ∧ inside ≠ [] ∧ inside.length < cs.length then
      dropTagsFrom (inside.length + 1) cs
    else c :: dropTagsFrom 0 cs

def dropTags (cs : List Char) : List Char := dropTagsFrom 0 cs

/-- A text as one line: tags are dropped first, then references are decoded, and every run of
blanks becomes a space. -/
def plainLine (cs : List Char) : Except Fault (List Char) :=
  match Text.decodeEntities (dropTags cs) with
  | .ok cs => .ok (Text.join [' '] (Text.words cs))
  | .error _ => .error .outOfRange

/-- The one line of a prose description; an absent one is empty. -/
def plainText (v : Value) : Except Fault String :=
  match v with
  | .text s => (plainLine s.toList).map String.ofList
  | v => if v.truthy then .error .unsuitable else .ok ""

/-- The entry under a key as one line. -/
def proseField (v : Value) (key : String) : Except Fault String := do
  plainText ((← v.field? key).getD "")

namespace Operation

/-- The identifier of an operation that declares none: its method and the segments of its path,
without braces. -/
def derivedId (method path : String) : String :=
  let segments := (path.toList.splitOn '/').filter (!·.isEmpty)
  let trimmed := segments.map (Text.trimWhile fun c => c = '\x7b' || c = '\x7d')
  String.ofList (Text.join [' '] (Text.lower method.toList :: trimmed))

/-! ## Reading -/

/-- Follows references inside a description from `v`. `seen` holds the pointers followed so far;
each step adds one of the finitely many that occur, which bounds the steps. -/
def followWithin (description : Value) : Nat → List Value → Value → Except Fault Value
  | fuel, seen, v =>
    match v.asMap? with
    | some entries =>
      match Value.lookup entries "$ref" with
      | none => .ok v
      | some pointer =>
        if !pointer.hashable then .error .unsuitable
        else if pointer.isIn seen then .ok (.map [])
        else
          match fuel, Description.resolve description pointer with
          | fuel + 1, .ok target => followWithin description fuel (pointer :: seen) target
          | 0, .ok _ => .ok (.map [])
          | _, .error .noSuchPart => .error .noSuchPart
          | _, .error _ => .ok (.map [])
    | none => .ok (.map [])

/-- The object that a value stands for: the value itself, or what its chain of references leads
to. A chain that dangles, returns to itself or ends elsewhere than in an object gives the empty
object. -/
def follow (description v : Value) : Except Fault Value :=
  followWithin description (description.size + 1) [] v

/-- Work that leaves remarks behind. -/
abbrev Reading := ExceptT Fault (StateM (List Diagnostic))

def remark (d : Diagnostic) : Reading Unit := modify (· ++ [d])

def parseContentEntries : List (Value × Value) → Except Fault Content
  | [] => .ok []
  | (mediaType, media) :: es => do
    let schema := (media.asMap?.bind (Value.lookup · "schema")).getD .null
    let shape ← if schema.truthy then (Schema.parse schema).map some else .ok none
    return (mediaType, ⟨shape⟩) :: (← parseContentEntries es)

/-- The payloads of a content object. -/
def parseContent (v : Value) : Except Fault Content :=
  match v.asMap? with
  | some entries => parseContentEntries entries
  | none => .ok []

/-- A parameter's description as one line; an absent one is kept as it is. -/
def parameterProse (v : Value) : Except Fault Value :=
  if v.truthy then (plainText v).map .text else .ok v

/-- Reads one parameter; one without a name or in an unsupported place is skipped. -/
def parseParameter (description raw location : Value) : Reading (Option Parameter) := do
  let v ← follow description raw
  let name ← v.field "name"
  if !name.truthy then
    remark (.warning location "parameter without a name skipped")
    return none
  let place := (← v.field? "in").getD "query"
  match (← place.word?).bind Place.ofText? with
  | none =>
    remark (.warning location
      ((← place.plain?) ++ " parameter " ++ (← name.literal?) ++ " is not supported; skipped"))
    return none
  | some p =>
    let prose ← parameterProse ((← v.field? "description").getD "")
    let required := ((← v.field? "required").getD (.bool false)).truthy || p = .path
    let schema ← Schema.parse (← v.field "schema")
    return some { name, place := p, required, schema, description := prose }

def parseParameterList (description location : Value) : List Value → Reading (List Parameter)
  | [] => return []
  | raw :: raws => do
    match ← parseParameter description raw location with
    | some p => return p :: (← parseParameterList description location raws)
    | none => parseParameterList description location raws

def parseParameters (description raws location : Value) : Reading (List Parameter) := do
  parseParameterList description location (← raws.orEmptyList.items)

/-- Parameters of a path and of an operation on it. The operation's own replace those of the same
name and place. -/
def mergeParameters (inherited own : List Parameter) : Except Fault (List Parameter) :=
  if (own ++ inherited).all (·.name.hashable) then
    .ok (inherited.filter (fun p => !own.any fun q => q.name.same p.name && q.place = p.place)
      ++ own)
  else .error .unsuitable

/-- A status key: `default`, or the key in capitals. -/
def statusOf (key : Value) : Except Fault String := do
  let text ← key.plain?
  return if lowerText text = "default" then "default" else upperText text

/-- Puts a response under its status. A later one of the same status replaces an earlier one in
its place. -/
def putResponse (responses : List Response) (r : Response) : List Response :=
  if responses.any (·.status = r.status) then
    responses.map fun q => if q.status = r.status then r else q
  else responses ++ [r]

def parseResponses (description : Value) :
    List (Value × Value) → List Response → Except Fault (List Response)
  | [], responses => .ok responses
  | (key, raw) :: es, responses => do
    let v ← follow description raw
    let status ← statusOf key
    let content ← parseContent (← v.field "content")
    let prose ← proseField v "description"
    parseResponses description es
      (putResponse responses { status, content, description := prose })

def parseBody (description v : Value) : Except Fault (Option RequestBody) := do
  match ← v.field? "requestBody" with
  | none => return none
  | some raw =>
    let body ← follow description raw
    let content ← parseContent (← body.field "content")
    return some { content, required := (← body.field "required").truthy }

/-- The tags that are texts and not empty. -/
def parseTags (v : Value) : Except Fault (List String) := do
  return (← (← v.field "tags").orEmptyList.items).filterMap fun
    | .text s => if s.isEmpty then none else some s
    | _ => none

/-- The tag that an operation is grouped under: its first one, or the one for operations that have
none. -/
def parseTag (location : Value) (tags : List String) (options : Options) : Reading Value := do
  match tags with
  | tag :: _ => return .text tag
  | [] =>
    remark (.warning location
      ("operation has no tag; grouped under " ++ (← options.ungroupedTag.literal?)))
    return options.ungroupedTag

/-- The declared identifier of an operation, or the one that its method and path give. -/
def parseId (location path : Value) (method : String) (declared : Value) : Reading Value := do
  if declared.truthy then return declared
  else
    let id := derivedId method (← path.asText)
    remark (.warning location ("operation has no operationId; using " ++ quote id))
    return .text id

/-- Reads the operation of a method on a path. -/
def parse (description path : Value) (method : String) (v : Value) (inherited : List Parameter)
    (options : Options) : Reading Operation := do
  let location := upperText method ++ " " ++ (← path.plain?)
  let tags ← parseTags v
  let tag ← parseTag location tags options
  let id ← parseId location path method (← v.field "operationId")
  let own ← parseParameters description (← v.field "parameters") location
  let body ← parseBody description v
  let responses ←
    parseResponses description (← (← v.field "responses").orEmptyMap.entries) []
  let parameters ← mergeParameters inherited own
  let summary ← proseField v "summary"
  let prose ← proseField v "description"
  let deprecated := (← v.field "deprecated").truthy
  return { path, method, tag, id, parameters, body, responses, tags, summary,
           description := prose, deprecated }

/-- The methods that a path may have, in the order in which they are read. -/
def methods : List String :=
  ["get", "put", "post", "delete", "options", "head", "patch", "trace"]

def parseMethods (description path item : Value) (inherited : List Parameter) (options : Options) :
    List String → Reading (List Operation)
  | [] => return []
  | method :: methods => do
    let v ← item.field method
    if v.asMap?.isSome then
      let op ← parse description path method v inherited options
      return op :: (← parseMethods description path item inherited options methods)
    else parseMethods description path item inherited options methods

def parsePaths (description : Value) (options : Options) :
    List (Value × Value) → Reading (List Operation)
  | [] => return []
  | (path, raw) :: es => do
    let item ← follow description raw
    let inherited ← parseParameters description (← item.field "parameters") path
    let ops ← parseMethods description path item inherited options methods
    return ops ++ (← parsePaths description options es)

/-- The operations of a description in order. -/
def parseAll (description : Value) (options : Options) : Reading (List Operation) := do
  parsePaths description options (← (← Description.paths description).entries)

end Operation

end ApiClient

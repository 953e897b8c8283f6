import ApiClient.Http.Reply

/-!
# What is handed to the connection

The content type decides how the entries of a form leave: in several parts, where attachments are
kept apart from plain entries, or as one encoded form. Any other body leaves as it is.
-/

namespace ApiClient.Http

/-- A body as the connection takes it. -/
inductive Enclosure where
  | empty
  | content (body : Body)
  | form (data : List (Value × Body))
  | parts (data files : List (Value × Body))

structure Outgoing where
  method : String
  address : String
  headers : List (Value × Value)
  /-- Absent when there are no settings. -/
  extensions : Option (List (Value × Value))
  enclosure : Enclosure

/-- Octets, open files and entries of several parts are sent as attachments. -/
def Body.isAttachment : Body → Bool
  | .value (.bytes _) | .value (.pair _ _) | .file _ | .tuple _ => true
  | .value _ | .form _ => false

/-- The content type in small letters, empty when there is none. -/
def Request.contentType (r : Request) : Except Fault String := do
  match ← r.header "Content-Type" with
  | none => return ""
  | some v => if v.truthy then return mapChars Text.lower (← v.asText) else return ""

/-- The headers and the enclosure for the entries of a form. The connection writes a boundary of
its own unless the content type gives one, so the header gives way to it. -/
def encloseForm (contentType : String) (headers : List (Value × Value))
    (fields : List (Value × Body)) : Except Failure (List (Value × Value) × Enclosure) :=
  if "multipart/".toList.isPrefixOf contentType.toList then
    let parts : Enclosure :=
      .parts (fields.filter (!·.2.isAttachment)) (fields.filter (·.2.isAttachment))
    if Text.occurs "boundary=".toList contentType.toList then .ok (headers, parts)
    else match dropHeader "content-type" headers with
      | .ok rest => .ok (rest, parts)
      | .error f => .error (.fault f)
  else if "application/x-www-form-urlencoded".toList.isPrefixOf contentType.toList then
    .ok (headers, .form fields)
  else .error (.unencodedForm contentType)

/-- What a request hands to the connection. -/
def Outgoing.ofRequest (address : String) (r : Request) : Except Failure Outgoing := do
  let contentType ← r.contentType.mapError .fault
  let (headers, enclosure) ← match r.body with
    | .form fields => encloseForm contentType r.headers fields
    | .value .null => .ok (r.headers, .empty)
    | body => .ok (r.headers, .content body)
  return {
    method := r.method
    address
    headers
    extensions := if r.extensions.isEmpty then none else some r.extensions
    enclosure }

end ApiClient.Http

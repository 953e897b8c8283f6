import ApiClient.Text.Blank
import ApiClient.Text.Case
import ApiClient.Text.Edit
import ApiClient.Text.Percent
import ApiClient.Value.Literal

/-!
# Requests

A request is an address below some base, a method, headers and a body. Names come from a
description and need not be texts; a header whose name is not a text cannot be compared with
others. Headers keep the order in which their names first appeared.
-/

namespace ApiClient.Http

mutual

/-- The text of a value inside an address or a header: truth values in small letters, nothing for
null, the items of a list with commas between them. -/
def parameterText : Value → String
  | .null => ""
  | .bool b => if b then "true" else "false"
  | .pair a b => parameterText a ++ "," ++ parameterText b
  | .list vs => ",".intercalate (parameterTexts vs)
  | v => v.plain

def parameterTexts : List Value → List String
  | [] => []
  | v :: vs => parameterText v :: parameterTexts vs

end

/-- What a request carries: a value as it is, the content of an open file, several parts of one
entry, or the entries of a form. -/
inductive Body where
  | value (v : Value)
  | file (content : String)
  | tuple (items : List Body)
  | form (fields : List (Value × Body))

instance : Inhabited Body := ⟨.value .null⟩

structure Request where
  pathname : String
  method : String
  searchParams : List (Value × Value) := []
  headers : List (Value × Value) := []
  body : Body := .value .null
  /-- Settings for the transport, which are not sent. -/
  extensions : List (Value × Value) := []

/-- A header's name without its letter case. -/
def foldedName (name : Value) : Except Fault String := return mapChars Text.lower (← name.asText)

/-- The value of the first header with a folded name. -/
def findHeader (folded : String) : List (Value × Value) → Except Fault (Option Value)
  | [] => .ok none
  | (name, v) :: headers => do
    if (← foldedName name) = folded then return some v
    findHeader folded headers

/-- The headers without those of a folded name. -/
def dropHeader (folded : String) : List (Value × Value) → Except Fault (List (Value × Value))
  | [] => .ok []
  | (name, v) :: headers => do
    let current ← foldedName name
    let rest ← dropHeader folded headers
    return if current = folded then rest else (name, v) :: rest

/-- The headers that carry credentials, by folded name. -/
def credentialHeaders : List String :=
  ["authorization", "cookie", "proxy-authorization", "x-api-key"]

def redact : List (Value × Value) → Except Fault (List (Value × Value))
  | [] => .ok []
  | (name, v) :: headers => do
    let current ← foldedName name
    let rest ← redact headers
    return (name, if credentialHeaders.contains current then "[redacted]" else v) :: rest

namespace Request

/-- Puts a value in place of every mark `{name}` of the pathname, percent-encoded. -/
def setPathParam (r : Request) (name v : Value) : Except Fault Request :=
  match name with
  | .text name =>
    let mark := '\x7b' :: name.toList ++ ['\x7d']
    let inserted := Text.percentEncode (Text.chars (parameterText v).toList)
    .ok { r with pathname := mapChars (Text.replaceAll mark inserted) r.pathname }
  | _ => .error .unsuitable

/-- The texts that a value adds under one name: one per item of a list. -/
def searchTexts : Value → List Value
  | .list vs => vs.map fun v => .text (parameterText v)
  | .pair a b => [.text (parameterText a), .text (parameterText b)]
  | v => [.text (parameterText v)]

def addSearchParam (r : Request) (name v : Value) : Request :=
  { r with searchParams := r.searchParams ++ (searchTexts v).map (name, ·) }

/-- A header under the very same name keeps its place and takes the new value. -/
def setHeader (r : Request) (name v : Value) : Except Fault Request :=
  if name.hashable then
    .ok { r with headers := Value.insert r.headers name (.text (parameterText v)) }
  else .error .unsuitable

/-- The value of the first header with the name, whatever the letter case. -/
def header (r : Request) (name : Value) : Except Fault (Option Value) := do
  findHeader (← foldedName name) r.headers

/-- Removes every header with the name, whatever the letter case. -/
def removeHeader (r : Request) (name : Value) : Except Fault Request := do
  return { r with headers := ← dropHeader (← foldedName name) r.headers }

def setExtensions (r : Request) (entries : List (Value × Value)) : Request :=
  { r with extensions := entries.foldl (fun es e => Value.insert es e.1 e.2) r.extensions }

/-- A copy that may be shown: without transport settings, and with credentials redacted. -/
def scrubbed (r : Request) : Except Fault Request := do
  return { r with headers := ← redact r.headers, extensions := [] }

def queryPart (name v : Value) : List Char :=
  Text.percentEncode (Text.chars name.plain.toList)
    ++ '=' :: Text.percentEncode (Text.chars v.plain.toList)

/-- The query after the pathname, nothing when there are no search parameters. -/
def query (r : Request) : List Char :=
  if r.searchParams.isEmpty then []
  else '?' :: Text.join ['&'] (r.searchParams.map fun (name, v) => queryPart name v)

/-- The address of a request: the base without its trailing slashes, the pathname, the query. -/
def address (basePath : String) (r : Request) : String :=
  String.ofList (Text.trimEndWhile (· = '/') basePath.toList ++ r.pathname.toList ++ r.query)

end Request

end ApiClient.Http

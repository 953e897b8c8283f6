import ApiClient.Name.Registry
import ApiClient.Operation

/-!
# Grouping of operations

Operations are grouped into classes by their first tag. This module also says under which raw
name an operation is registered, for which media types it has methods, and in which order its
parameters appear.
-/

namespace ApiClient

/-- A class of the generated module with its operations. -/
structure Group where
  name : String
  operations : List Operation

namespace Group

/-- Adds an operation to the group of a name, which is opened at the end if it is new. -/
def add (groups : List Group) (name : String) (op : Operation) : List Group :=
  if groups.any (·.name = name) then
    groups.map fun g => if g.name = name then { g with operations := g.operations ++ [op] } else g
  else groups ++ [⟨name, [op]⟩]

/-- Groups operations by the class of their tag. -/
def ofOperations (ops : List Operation) (registry : Name.Registry) :
    List Group × Name.Registry :=
  ops.foldl (fun (groups, registry) op =>
    let (name, registry) := registry.resolve (op.tag.plain ++ " api")
    (add groups name op, registry)) ([], registry)

end Group

/-- Looks a raw name up in a registry. Only texts can be in it; a list or a map cannot even be
looked up. -/
def Name.Registry.holds (r : Name.Registry) (raw : Value) : Except Fault Bool :=
  match raw with
  | .text raw => .ok (r.contains raw)
  | raw => if raw.hashable then .ok false else .error .unsuitable

/-- The identifier of a raw name, which must be a text. -/
def Name.Registry.resolveValue (r : Name.Registry) (raw : Value) :
    Except Fault (String × Name.Registry) :=
  match raw with
  | .text raw => .ok (r.resolve raw)
  | _ => .error .unsuitable

namespace Operation

/-- The identifier of an operation made unique by its method and path. -/
def qualifiedId (op : Operation) : Except Fault String := do
  return (← op.id.plain?) ++ " " ++ op.method ++ " " ++ op.path.plain

/-- The raw name of an operation's methods. One whose identifier is registered already is
qualified, so that it cannot take the other's method. -/
def rawName (op : Operation) (methods : Name.Registry) : Except Fault Value := do
  if ← methods.holds op.id then return .text (← op.qualifiedId) else return op.id

/-- The name that an operation's types begin with, after the operations of some identifiers. -/
def typePrefix (op : Operation) (seen : List Value) : Except Fault Value := do
  if op.id.isIn seen then return .text (← op.qualifiedId) else return op.id

/-- Adds a media type, the one for all of them aside, unless it is there. -/
def addMediaType (mediaTypes : List Value) (mediaType : Value) : List Value :=
  if mediaType.isText "*/*" || mediaType.isIn mediaTypes then mediaTypes
  else mediaTypes ++ [mediaType]

/-- The media types of the request body and of the successful responses, each once. -/
def declaredMediaTypes (op : Operation) : List Value :=
  let ofBody := (op.body.map (·.content.map (·.1))).getD []
  let ofResponses := (op.responses.filter (·.isSuccess)).flatMap (·.content.map (·.1))
  (ofBody ++ ofResponses).foldl addMediaType []

/-- The media types that an operation has methods for; never none. -/
def participatingMediaTypes (op : Operation) (default : Value) : List Value :=
  match op.declaredMediaTypes with
  | [] => [default]
  | mediaTypes => mediaTypes

/-- Whether a successful response has content of a media type. -/
def accepts (op : Operation) (mediaType : Value) : Except Fault Bool :=
  (op.responses.filter (·.isSuccess)).anyM fun r => return (← r.content.find? mediaType).isSome

/-- The required parameters first; otherwise the order is kept. -/
def orderParameters (ps : List Parameter) : List Parameter :=
  ps.filter (·.required) ++ ps.filter (!·.required)

end Operation

end ApiClient

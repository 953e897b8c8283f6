import ApiClient.Text.Blank
import ApiClient.Text.Edit
import ApiClient.Value

/-!
# Schemas

The shape that a schema object of a description gives to values. A schema object without usable
shape is open; only a value of the wrong kind in a place that decides the shape is a fault.
-/

namespace ApiClient

inductive ScalarKind where
  | string
  | integer
  | number
  | boolean
  deriving DecidableEq

def ScalarKind.text : ScalarKind → String
  | string => "string"
  | integer => "integer"
  | number => "number"
  | boolean => "boolean"

def ScalarKind.ofText? : String → Option ScalarKind
  | "string" => some string
  | "integer" => some integer
  | "number" => some number
  | "boolean" => some boolean
  | _ => none

/-- A named part of an object. -/
structure Field (α : Type) where
  name : Value
  required : Bool
  type : α

inductive Schema where
  | reference (name : String)
  | allOf (members : List Schema)
  | oneOf (members : List Schema)
  | object (properties : List (Field Schema)) (additional : Option Schema)
  /-- A scalar; a nonempty list of values restricts it to them. -/
  | scalar (kind : ScalarKind) (choices : List Value)
  | binary
  | array (element : Schema)
  | anything

namespace Schema

/-- The name that a reference ends in. -/
def referenceName (pointer : String) : String :=
  mapChars (fun cs => ((Text.trimEndWhile (· = '/') cs).splitOn '/').getLastD []) pointer

/-- The declared type; of a list of types, the first that is not null. -/
def declaredType (schema : List (Value × Value)) : Value :=
  let type := (Value.lookup schema "type").getD .null
  match type.asList? with
  | some types => (types.find? fun t => !t.isText "null").getD .null
  | none => type

/-- The scalar kind that a declared type names. A list or a map names nothing and is refused. -/
def scalarKind? (type : Value) : Except Fault (Option ScalarKind) :=
  type.word?.map (·.bind ScalarKind.ofText?)

/-- The names that an object schema requires, as a set. -/
def requiredNames (schema : List (Value × Value)) : Except Fault (List Value) := do
  let names ← ((Value.lookup schema "required").getD .null).orEmptyList.items
  if names.all Value.hashable then .ok names else .error .unsuitable

/-- The list under a key, if there is one. -/
def listUnder? (schema : List (Value × Value)) (key : String) : Option (List Value) :=
  (Value.lookup schema key).bind Value.asList?

def has (schema : List (Value × Value)) (key : String) : Bool := (Value.lookup schema key).isSome

/-- The schema of a scalar or restricted type, where no other shape applies. -/
def parseScalar (schema : List (Value × Value)) (type : Value) : Except Fault Schema := do
  match listUnder? schema "enum" with
  | none =>
    match ← scalarKind? type with
    | some kind => .ok (scalar kind [])
    | none => .ok anything
  | some members =>
    let choices := members.filter (!·.isNull)
    let allTexts := choices.all fun v => match v with
      | .text _ => true
      | _ => false
    match (← scalarKind? type).or (if allTexts then some .string else none) with
    | some kind => .ok (scalar kind choices)
    | none => .ok anything

/-! ## Parsing

One level of a schema object is read with a given parser for its parts. A schema that contains
itself has no end: the parser for the parts then runs out of levels. -/

/-- The properties of an object schema, each marked as required or not. -/
def parseProperties (parsePart : Value → Except Fault Schema) (required : List Value) :
    List (Value × Value) → Except Fault (List (Field Schema))
  | [] => .ok []
  | (name, v) :: es => do
    let type ← parsePart v
    return { name, required := name.isIn required, type }
      :: (← parseProperties parsePart required es)

/-- What an object schema says of further properties. -/
def parseAdditional (parsePart : Value → Except Fault Schema) (v : Value) :
    Except Fault (Option Schema) :=
  match v with
  | .bool true => .ok (some anything)
  | v => if v.asMap?.isSome then (parsePart v).map some else .ok none

def parseObject (parsePart : Value → Except Fault Schema) (schema : List (Value × Value)) :
    Except Fault Schema := do
  let required ← requiredNames schema
  let properties ← ((Value.lookup schema "properties").getD .null).orEmptyMap.entries
  return object (← parseProperties parsePart required properties)
    (← parseAdditional parsePart ((Value.lookup schema "additionalProperties").getD .null))

/-- One level of a schema object that is not empty. A reference comes first, then composition,
objects, arrays and at last scalars. -/
def parseEntries (parsePart : Value → Except Fault Schema) (schema : List (Value × Value)) :
    Except Fault Schema := do
  if let some pointer := Value.lookup schema "$ref" then
    return reference (referenceName (← pointer.asText))
  if let some members := listUnder? schema "allOf" then
    return allOf (← members.mapM parsePart)
  if let some members := (listUnder? schema "oneOf").or (listUnder? schema "anyOf") then
    return oneOf (← members.mapM parsePart)
  let type := declaredType schema
  if type.isText "object" || has schema "properties" || has schema "additionalProperties" then
    parseObject parsePart schema
  else if type.isText "array" then
    return array (← parsePart ((Value.lookup schema "items").getD .null))
  else if type.isText "string" && ((Value.lookup schema "format").getD .null).isText "binary" then
    return binary
  else
    parseScalar schema type

/-- The shape of a schema object, over a number of levels. -/
def parseWithin : Nat → Value → Except Fault Schema
  | 0, _ => .error .endless
  | levels + 1, v =>
    match v.asMap? with
    | none | some [] => .ok anything
    | some schema => parseEntries (parseWithin levels) schema

/-- The shape of a schema object. There are no more levels than values inside it, unless it
contains itself. -/
def parse (v : Value) : Except Fault Schema := parseWithin v.size v

end Schema

end ApiClient

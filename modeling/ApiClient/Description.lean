import ApiClient.Components
import ApiClient.Text.Edit

/-!
# Descriptions

The parts of an API description: its paths, its named schemas, and what a pointer inside it
denotes.
-/

namespace ApiClient

namespace Description

/-- The paths, an empty map when there are none. -/
def paths (description : Value) : Except Fault Value := do
  return (← description.field "paths").orEmptyMap

/-- The named schemas, an empty map when there are none. -/
def schemas (description : Value) : Except Fault Value := do
  let components := (← description.field "components").orEmptyMap
  return (← components.field "schemas").orEmptyMap

/-! ## Pointers -/

/-- Undoes the escapes of a key inside a pointer. -/
def unescapeKey (cs : List Char) : List Char :=
  Text.replaceAll ['~', '0'] ['~'] (Text.replaceAll ['~', '1'] ['/'] cs)

/-- The keys that a pointer follows. -/
def pointerKeys (pointer : String) : List String :=
  ((pointer.toList.dropWhile fun c => c = '#' || c = '/').splitOn '/').map fun key =>
    String.ofList (unescapeKey key)

/-- The value under a key. Only maps have keys that are texts. -/
def descend (v : Value) (key : String) : Except Fault Value :=
  match v.asMap? with
  | some entries =>
    match Value.lookup entries key with
    | some v => .ok v
    | none => .error (.missing key)
  | none => .error .unsuitable

/-- The value that a pointer denotes. -/
def resolve (description : Value) (pointer : Value) : Except Fault Value := do
  (pointerKeys (← pointer.asText)).foldlM descend description

/-! ## Named schemas -/

def parseSchemas : List (Value × Value) → Except Fault (List (Value × Schema))
  | [] => .ok []
  | (name, v) :: es => do
    let schema ← Schema.parse v
    return (name, schema) :: (← parseSchemas es)

/-- The named schemas with their shapes. -/
def shapes (description : Value) : Except Fault (List (Value × Schema)) := do
  parseSchemas (← (← schemas description).entries)

/-- The components, provided that every name is a text. -/
def components (shapes : List (Value × Schema)) : Except Fault Components :=
  shapes.mapM fun (name, schema) =>
    match name with
    | .text name => .ok (name, schema)
    | _ => .error .unsuitable

end Description

end ApiClient

import ApiClient.Dispatch
import ApiClient.MediaType
import ApiClient.Operation

/-!
# Methods

A method of the generated module carries out one operation for one media type: its signature,
the steps that fill in the request, the request body, and the branches on the response.
-/

namespace ApiClient

structure Argument where
  name : String
  hint : String
  required : Bool

/-- The argument as it stands in a signature. -/
def Argument.declaration (a : Argument) : String :=
  if a.required then a.name ++ ": " ++ a.hint
  else a.name ++ ": " ++ a.hint ++ " | None = None"

/-- Puts an argument into the request at a place under a key. -/
structure Step where
  place : Place
  key : Value
  argument : String
  required : Bool

def Place.setter : Place → String
  | path => "set_path_param"
  | query => "add_search_param"
  | header => "set_header"

inductive BodyEncoding where
  | json
  | form
  | raw
  deriving DecidableEq

namespace BodyEncoding

def label : BodyEncoding → String
  | json => "json"
  | form => "form"
  | raw => "raw"

def ofMediaType (mediaType : String) : BodyEncoding :=
  if MediaType.isJson mediaType then json
  else if MediaType.isForm mediaType then form
  else raw

end BodyEncoding

/-- How a method sends its body argument. -/
structure BodyPlan where
  argument : String
  mediaType : Value
  encoding : BodyEncoding
  required : Bool

def BodyPlan.expression (b : BodyPlan) : String :=
  match b.encoding with
  | .json => "json.dumps(" ++ b.argument ++ ")"
  | .form | .raw => b.argument

structure Method where
  name : String
  operationId : Value
  mediaType : Value
  httpMethod : String
  path : Value
  arguments : List Argument
  steps : List Step
  body : Option BodyPlan
  accept : Option Value
  branches : List Branch
  returns : String
  doc : List String

def Method.signature (m : Method) : String :=
  ", ".intercalate ("self" :: m.arguments.map (·.declaration))

/-- The lines that document an operation. A description that repeats the summary is left out. -/
def Operation.doc (op : Operation) : List String :=
  let prose := (if op.summary.isEmpty then [] else [op.summary])
    ++ (if op.description.isEmpty || op.description = op.summary then [] else [op.description])
  (if prose.isEmpty then [op.location] else prose)
    ++ (if op.deprecated then ["Deprecated."] else [])

end ApiClient

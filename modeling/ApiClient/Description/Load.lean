import ApiClient.Json.Reader
import ApiClient.Text.Case
import ApiClient.Text.Utf8
import ApiClient.Yaml.Document

/-!
# Loading of descriptions

A description is read as the interchange notation, and failing that as markup. Only an object is
a description.
-/

namespace ApiClient

/-- Why no description could be loaded. -/
inductive LoadFailure where
  /-- The standard input holds nothing but blanks. -/
  | noInput
  | notAnObject
  | unparsable
  /-- The file could not be read. -/
  | unreadable (path reason : String)
  /-- The octets of the file are no text. -/
  | undecodable
  | overflow
  | fault (f : Fault)
  deriving DecidableEq

namespace LoadFailure

def text : LoadFailure → Option String
  | noInput => some "No input received from stdin"
  | notAnObject => some "API description must be a JSON or YAML object"
  | unparsable => some "Could not parse API description"
  | unreadable path reason => some ("Could not read " ++ path ++ ": " ++ reason)
  | undecodable | overflow | fault _ => none

def ofRefusal : Yaml.Refusal → LoadFailure
  | .malformed => unparsable
  | .overflow => overflow
  | .fault f => fault f

end LoadFailure

namespace Description

def readMarkup (content : String) : Except LoadFailure Value := do
  let v ← (Yaml.read content).mapError .ofRefusal
  if v.asMap?.isSome then .ok v else .error .notAnObject

/-- Reads a text. What the interchange notation does not read as an object is read as markup; an
integer with too many digits is a fault at once. -/
def read (content : String) (markupOnly : Bool) : Except LoadFailure Value :=
  if markupOnly then readMarkup content
  else
    match Json.read content with
    | .ok (.map entries) => .ok (.map entries)
    | .error .tooLong => .error (.fault .outOfRange)
    | _ => readMarkup content

/-- Reads what the standard input holds. -/
def ofInput (content : String) : Except LoadFailure Value :=
  if content.toList.all Text.isBlank then .error .noInput else read content false

/-- Every kind of line end as a line feed. -/
def unifyLineEnds : List Char → List Char
  | '\r' :: '\n' :: cs => '\n' :: unifyLineEnds cs
  | '\r' :: cs => '\n' :: unifyLineEnds cs
  | c :: cs => c :: unifyLineEnds cs
  | [] => []

/-- The end of a file's name from its last point on; a point at either end begins none. -/
def suffixOf (name : List Char) : List Char :=
  let tail := (name.reverse.takeWhile (· ≠ '.')).reverse
  if tail = [] ∨ name.length ≤ tail.length + 1 then [] else '.' :: tail

/-- Whether the name of a file says that it holds markup. -/
def namesMarkup (name : String) : Bool :=
  [".yaml", ".yml"].contains (String.ofList (Text.lower (suffixOf name.toList)))

/-- Reads what a file of some name holds. -/
def ofFile (name : String) (octets : List UInt8) : Except LoadFailure Value :=
  match Text.decodeUtf8? octets with
  | none => .error .undecodable
  | some cs => read (String.ofList (unifyLineEnds (Text.keep cs))) (namesMarkup name)

end Description

end ApiClient

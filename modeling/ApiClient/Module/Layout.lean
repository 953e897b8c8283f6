import ApiClient.Module.Content

/-!
# Layout of a module

The text of a generated module: its documentation, its imports or the support code, the names it
offers, the declarations, and the classes with their methods. A part is a list of lines; a text
of the description may break a line.
-/

namespace ApiClient.Module

/-- A line inside a block that is `depth` levels deep. -/
def indent (depth : Nat) (line : String) : String :=
  String.ofList (List.replicate (4 * depth) ' ') ++ line

/-- What a field's annotation is wrapped in when its key may be absent. -/
def presence (required : Bool) (hint : String) : String :=
  if required then hint else "NotRequired[" ++ hint ++ "]"

/-- What is known of further keys, if there is anything to say. -/
def extraLines (depth : Nat) (extra : Option String) : List String :=
  (extra.toList.filter (!·.isEmpty)).map fun hint => indent depth ("# additional keys: " ++ hint)

/-- A record declared by a call, which takes any key. -/
def callLines (c : RecordClass) : List String :=
  [c.name ++ " = TypedDict(" ++ quote c.name ++ ", \x7b"]
    ++ c.fields.map (fun f =>
      indent 1 (f.name.literal ++ ": " ++ presence f.required (quote f.type) ++ ","))
    ++ ["\x7d)"]
    ++ extraLines 0 c.extra

/-- A record declared by a class body. -/
def classLines (c : RecordClass) : List String :=
  let bases := if c.bases.isEmpty then "TypedDict" else ", ".intercalate c.bases
  ["class " ++ c.name ++ "(" ++ bases ++ "):"]
    ++ extraLines 1 c.extra
    ++ if c.fields.isEmpty then [indent 1 "pass"]
       else c.fields.map fun f => indent 1 (f.name.plain ++ ": " ++ presence f.required f.type)

def declarationLines : Declaration → Except Fault (List String)
  | .synonym name hint => .ok [name ++ ": TypeAlias = " ++ quote hint]
  | .record c => do return if ← c.functional then callLines c else classLines c

/-- The lines that put an argument into the request; an optional one only when it is given. -/
def stepLines (s : Step) : List String :=
  let call := "request." ++ s.place.setter ++ "(" ++ s.key.literal ++ ", " ++ s.argument ++ ")"
  if s.required then [indent 2 call]
  else [indent 2 ("if " ++ s.argument ++ " is not None:"), indent 3 call]

def bodyLines (b : BodyPlan) : List String :=
  let depth := if b.required then 2 else 3
  (if b.required then [] else [indent 2 ("if " ++ b.argument ++ " is not None:")])
    ++ [indent depth ("request.set_header(\"Content-Type\", " ++ b.mediaType.literal ++ ")"),
        indent depth ("request.body = " ++ b.expression)]

/-- The line that asks for a media type, unless its text is empty. -/
def acceptLines (accept : Option Value) : List String :=
  (accept.toList.filter (·.truthy)).map fun mediaType =>
    indent 2 ("request.set_header(\"Accept\", " ++ mediaType.literal ++ ")")

def Outcome.statement : Outcome → String
  | .error => "raise RequestError(request, response)"
  | .json => "return await self.client.decode_json(response)"
  | .binary | .content => "return response.content"
  | .text => "return response.text"

def branchLines (b : Branch) : List String :=
  [indent 3 ("if " ++ b.condition.text ++ ":"), indent 4 (Outcome.statement b.outcome)]

def docLines (m : Method) : List String :=
  let place := m.httpMethod ++ " " ++ m.path.plain ++ " (" ++ m.mediaType.plain ++ ")"
  [indent 2 ("\"\"\"" ++ m.doc.headD "")]
    ++ (m.doc.drop 1).flatMap (fun line => ["", indent 2 line])
    ++ ["", indent 2 place, indent 2 "\"\"\""]

def methodLines (m : Method) : List String :=
  ["", indent 1 ("async def " ++ m.name ++ "(" ++ m.signature ++ ") -> " ++ m.returns ++ ":")]
    ++ docLines m
    ++ [indent 2 ("request = ApiRequest(pathname=" ++ m.path.literal ++ ", method="
        ++ quote m.httpMethod ++ ")")]
    ++ m.steps.flatMap stepLines
    ++ (m.body.map bodyLines).getD []
    ++ acceptLines m.accept
    ++ ["", indent 2 "async def handle(response: httpx.Response) -> Any:"]
    ++ m.branches.flatMap branchLines
    ++ [indent 3 "if response.status_code < 400:", indent 4 (Outcome.statement .content),
        indent 3 (Outcome.statement .error), "",
        indent 2 "return await self.client.fetch(request, handle)"]

def apiClassLines (c : ApiClass) : List String :=
  ["", "", "class " ++ c.name ++ ":", indent 1 "def __init__(self, client: Client) -> None:",
   indent 2 "self.client = client"]
    ++ c.methods.flatMap methodLines

/-- What a module consists of, as far as its text goes. -/
structure Sheet where
  title : Value
  version : Value
  exports : List String
  supportNames : List String
  inlineSupport : Bool
  supportText : String
  declarations : List Declaration
  classes : List ApiClass

def headLines (s : Sheet) : Except Fault (List String) := do
  let title ← s.title.plain?
  let version ← s.version.plain?
  return ["\"\"\"" ++ title ++ " client.", "",
   "Generated by clientgen from " ++ title ++ " " ++ version ++ ". Do not edit.", "\"\"\"", "", "from __future__ import annotations", "", "import json",
   "from typing import Any, Literal, NotRequired, TypeAlias, TypedDict", "", "import httpx", "",
   if s.inlineSupport then s.supportText
   else "from clientgen.runtime import " ++ ", ".intercalate s.supportNames,
   "", "__all__ = ["]
    ++ s.exports.map (fun name => indent 1 (quote name ++ ","))
    ++ ["]"]

def declarationsLines : List Declaration → Except Fault (List String)
  | [] => .ok []
  | d :: ds => do
    let lines ← declarationLines d
    return ["", ""] ++ lines ++ (← declarationsLines ds)

/-- The text of a module. -/
def Sheet.text (s : Sheet) : Except Fault String := do
  let head ← headLines s
  let declarations ← declarationsLines s.declarations
  let lines := head ++ declarations ++ s.classes.flatMap apiClassLines
  return String.join (lines.map (· ++ "\n"))

def Content.sheet (c : Content) : Sheet where
  title := c.title
  version := c.version
  exports := c.exports
  supportNames := supportNames
  inlineSupport := c.inlineSupport
  supportText := c.supportText
  declarations := c.declarations
  classes := c.classes

/-- The text of the module with some content. -/
def Content.text (c : Content) : Except Fault String := c.sheet.text

end ApiClient.Module

import ApiClient.Emission
import ApiClient.Module.Support

/-!
# Content of a module

One pass over a description settles what the generated module holds: the declarations of the
components and of the types without a name, and one class of methods for each tag. An operation
whose types refer back to themselves is skipped with a remark.
-/

namespace ApiClient.Module

structure ApiClass where
  name : String
  methods : List Method

structure Content where
  title : Value
  version : Value
  declarations : List Declaration
  classes : List ApiClass
  diagnostics : List Diagnostic
  inlineSupport : Bool

namespace Content

def methodCount (c : Content) : Nat := c.classes.foldl (fun n a => n + a.methods.length) 0

/-- The names that the module offers, sorted. -/
def exports (c : Content) : List String :=
  (c.declarations.map (·.name) ++ c.classes.map (·.name) ++ supportNames).mergeSort (· ≤ ·)

def supportText (c : Content) : String := if c.inlineSupport then Module.supportText else ""

/-- The summary of a pass for the log. -/
def summary (c : Content) : String :=
  s!"{c.declarations.length} declarations, {c.classes.length} API classes, "
    ++ s!"{c.methodCount} methods, {c.diagnostics.length} diagnostics"

end Content

/-- A line of documentation as it stands between triple quotes. Backslashes are doubled and
triple quotes are broken up. -/
def escapeDoc (line : String) : String :=
  mapChars (fun cs =>
    Text.replaceAll ['"', '"', '"'] ['\\', '"', '\\', '"', '\\', '"']
      (Text.replaceAll ['\\'] ['\\', '\\'] cs)) line

def escapeMethodDoc (m : Method) : Method := { m with doc := m.doc.map escapeDoc }

/-- Declares components in order. -/
def declareAll (components : Components) : Components → Drafting Unit
  | [] => return
  | (raw, s) :: rest => do
    let _ ← Drafting.declareSchema components raw s
    declareAll components rest

/-- Emits an operation; one that fails for a recursive schema is skipped. -/
def emitOrSkip (setting : Emission.Setting) (op : Operation) : Emitting (List Method) :=
  tryCatch (List.map escapeMethodDoc <$> Emission.emit setting op) fun
    | .recursiveSchema chain => do
      Emission.report
        (.error op.location ("operation skipped: " ++ Fault.recursionText chain))
      return []
    | fault => throw fault

/-- Emits the operations of a class. -/
def emitAll (setting : Emission.Setting) : List Operation → Emitting (List Method)
  | [] => return []
  | op :: ops => do
    let methods ← emitOrSkip setting op
    return methods ++ (← emitAll setting ops)

/-- Emits the operations of a class with method names of its own. -/
def emitClass (setting : Emission.Setting) (g : Group) : Emitting ApiClass := do
  modify fun emission => { emission with methods := .forMethods }
  return ⟨g.name, ← emitAll setting g.operations⟩

def emitClasses (setting : Emission.Setting) : List Group → Emitting (List ApiClass)
  | [] => return []
  | g :: groups => do
    let c ← emitClass setting g
    return c :: (← emitClasses setting groups)

/-- The entry of the information object under a key, or a default. -/
def infoField (description : Value) (key default : String) : Except Fault Value := do
  return (← (← description.field "info").orEmptyMap.field? key).getD default

/-- The content of the module for a description. -/
def build (description : Value) (options : Options) : Except Fault Content := do
  let components ← Description.components (← Description.shapes description)
  let registry := Name.Registry.forModule.resolveAll (components.map (·.1))
  let (declared, draft) :=
    (declareAll components components).run.run { Draft.empty with registry }
  declared
  let (ops, diagnostics) :=
    (Operation.parseAll description options).run.run draft.diagnostics
  let (groups, registry) := Group.ofOperations (← ops) draft.registry
  let emission : Emission :=
    { draft := { draft with registry, diagnostics }, operationIds := [], methods := .forMethods }
  let (classes, emission) := (emitClasses ⟨components, options⟩ groups).run.run emission
  return {
    classes := ← classes
    declarations := emission.draft.declarations.ordered
    diagnostics := emission.draft.diagnostics
    title := ← infoField description "title" "API"
    version := ← infoField description "version" "unknown"
    inlineSupport := options.inlineSupport }

end ApiClient.Module

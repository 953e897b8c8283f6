import ApiClient.CommandLine.Arguments
import ApiClient.Description.Load
import ApiClient.Folder
import ApiClient.Module.Layout

/-!
# Runs of a command

A run loads a description, generates the module and reports. Reading the description and writing
the module are left to the caller; the rest is decided here.
-/

namespace ApiClient.CommandLine

/-- Where a description comes from. -/
inductive Source where
  | input
  | file (path : FilePath)

def Command.source (c : Command) : Source :=
  if c.spec = "-" then .input else .file (.ofText c.spec)

/-- What a run leaves behind. -/
structure Report where
  exitCode : Nat
  output : String
  errors : String

/-- The failure to load a file that could not be read. -/
def unread (path : FilePath) (f : FileFailure) : LoadFailure :=
  match f.text? path with
  | some reason => .unreadable path.text reason
  | none => .fault .outOfRange

def errorLine (message : String) : String := "Error: " ++ message ++ "\n"

/-- The report when no description could be loaded, unless the cause is not one to report. -/
def loadReport? (f : LoadFailure) : Option Report :=
  f.text.map fun message => { exitCode := 1, output := "", errors := errorLine message }

/-- Whether a log shows a diagnostic. -/
def shows (verbose : Bool) (d : Diagnostic) : Bool := verbose || d.severity ≠ .info

/-- The log of a generation. -/
def log (verbose : Bool) (c : Module.Content) : String :=
  String.join <|
    ((c.diagnostics.filter (shows verbose)).map fun d =>
      d.severity.level ++ " clientgen.diagnostics: " ++ d.logText ++ "\n")
    ++ if verbose then ["INFO clientgen.context_builder: " ++ c.summary ++ "\n"] else []

/-- A module that is ready to be written, with the log so far. -/
structure Product where
  path : FilePath
  text : String
  methodCount : Nat
  log : String

/-- The octets of the module, unless half of a pair stands alone in its text. -/
def Product.octets? (p : Product) : Option (List UInt8) := Text.textOctets? p.text.toList

/-- Generates the module. That there is no path to write it to shows only then. -/
def produce (c : Command) (description : Value) : Except Fault Product := do
  let content ← Module.build description c.options
  let text ← content.text
  let some path := c.output | throw .unsuitable
  return {
    path
    text
    methodCount := content.methodCount
    log := log c.verbose content }

/-- The report after the module was written, or could not be. -/
def report (p : Product) (failure : Option String) : Report :=
  match failure with
  | none =>
    { exitCode := 0
      output := "Generated " ++ p.path.text ++ s!" ({p.methodCount} methods)\n"
      errors := p.log }
  | some message => { exitCode := 2, output := "", errors := p.log ++ errorLine message }

end ApiClient.CommandLine

import ApiClient.Value.Literal

/-!
# Diagnostics

Remarks on a description that is odd but usable. Each names the place it is about.
-/

namespace ApiClient

inductive Severity where
  | info
  | warning
  | error
  | other (label : String)
  deriving DecidableEq

namespace Severity

def label : Severity → String
  | info => "info"
  | warning => "warning"
  | error => "error"
  | other label => label

def ofLabel : String → Severity
  | "info" => info
  | "warning" => warning
  | "error" => error
  | label => other label

/-- The level of a log line. A severity of its own kind is logged as a warning. -/
def level : Severity → String
  | info => "INFO"
  | error => "ERROR"
  | warning | other _ => "WARNING"

end Severity

structure Diagnostic where
  severity : Severity
  location : Value
  message : String

namespace Diagnostic

def info (location : Value) (message : String) : Diagnostic := ⟨.info, location, message⟩

def warning (location : Value) (message : String) : Diagnostic := ⟨.warning, location, message⟩

def error (location : Value) (message : String) : Diagnostic := ⟨.error, location, message⟩

/-- What the log says of a diagnostic, its level aside. -/
def logText (d : Diagnostic) : String := d.location.plain ++ ": " ++ d.message

def text (d : Diagnostic) : String := d.severity.label ++ ": " ++ d.logText

/-- The diagnostics about one place. -/
def about (location : Value) (ds : List Diagnostic) : List Diagnostic :=
  ds.filter (·.location.same location)

end Diagnostic

end ApiClient

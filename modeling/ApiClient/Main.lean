import ApiClient.CommandLine.Run

/-!
# The command

The command reads its arguments, the environment and the description, writes the module and
prints what the run reports.
-/

namespace ApiClient.CommandLine

/-- The account of a failed access to a file. -/
def accessFailure (path : FilePath) (e : IO.Error) : String :=
  let known : Option FileFailure := match e with
    | .noFileOrDirectory .. => some .notFound
    | .alreadyExists .. => some .alreadyExists
    | .inappropriateType .. => some .notAFolder
    | _ => none
  (known.bind (·.text? path)).getD (kept (toString e))

def variableNames : List String :=
  ["CLIENTGEN_DEFAULT_CONTENT_TYPE", "CLIENTGEN_UNGROUPED_TAG", "CLIENTGEN_INLINE_RUNTIME"]

def environment : IO (List (String × String)) :=
  variableNames.filterMapM fun name => do
    return (← IO.getEnv name).map fun value => (name, kept value)

def load (c : Command) : IO (Except LoadFailure Value) := do
  match c.source with
  | .input => return Description.ofInput (kept (← (← IO.getStdin).readToEnd))
  | .file path =>
    try
      let octets ← IO.FS.readBinFile (shown path.text)
      return Description.ofFile path.name octets.toList
    catch e => return .error (.unreadable path.text (accessFailure path e))

def store (path : FilePath) (octets : List UInt8) : IO (Option String) := do
  try
    IO.FS.createDirAll (shown path.parent.text)
    IO.FS.writeBinFile (shown path.text) ⟨octets.toArray⟩
    return none
  catch e => return some (accessFailure path e)

def print (r : Report) : IO UInt32 := do
  IO.print (shown r.output)
  IO.eprint (shown r.errors)
  return r.exitCode.toUInt32

def run (c : Command) : IO UInt32 := do
  match ← load c with
  | .error f =>
    match loadReport? f with
    | some r => print r
    | none => throw (.userError "the description holds a value that cannot be read")
  | .ok description =>
    match produce c description with
    | .error _ => throw (.userError "the description holds a value of the wrong kind")
    | .ok product =>
      match product.octets? with
      | none => throw (.userError "the module holds half of a pair alone")
      | some octets => print (report product (← store product.path octets))

end ApiClient.CommandLine

def main (args : List String) : IO UInt32 := do
  match ApiClient.CommandLine.parse (args.map ApiClient.kept) (← ApiClient.CommandLine.environment) with
  | .error stop => return stop.exitCode.toUInt32
  | .ok c => ApiClient.CommandLine.run c

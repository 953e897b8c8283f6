import ApiClient.FilePath
import ApiClient.Options
import ApiClient.Text.Digit

/-!
# Arguments of the command line

One argument names the description; options may stand before and after it. A long option may be
shortened as long as it stays unique, and takes a value from the next argument or after an equals
sign. Short options may share a hyphen, and a value may follow at once. After two hyphens no
argument is an option; two hyphens that are attached to an option as its value leave it with an
empty list of values.
-/

namespace ApiClient.CommandLine

inductive Flag where
  | help
  | output
  | inlineSupport
  | defaultContentType
  | ungroupedTag
  | verbose
  deriving DecidableEq

def Flag.takesValue : Flag → Bool
  | output | defaultContentType | ungroupedTag => true
  | help | inlineSupport | verbose => false

def longFlags : List (String × Flag) :=
  [("--help", .help), ("--output", .output), ("--inline-runtime", .inlineSupport),
   ("--default-content-type", .defaultContentType), ("--ungrouped-tag", .ungroupedTag),
   ("--verbose", .verbose)]

def shortFlags : List (Char × Flag) := [('h', .help), ('o', .output), ('v', .verbose)]

structure Arguments where
  spec : Option String
  output : Value
  inlineSupport : Bool
  defaultContentType : Option Value
  ungroupedTag : Option Value
  verbose : Bool

/-- How a command ends early: with help, or with an error in its arguments. -/
inductive Stop where
  | help
  | usage
  deriving DecidableEq

def Stop.exitCode : Stop → Nat
  | help => 0
  | usage => 2

/-- What an argument is, looked at alone. -/
inductive Shape where
  | operand (text : String)
  /-- Two hyphens. -/
  | separator
  /-- A long option, with what follows its equals sign. -/
  | long (flag : Flag) (attached : Option (List Char))
  /-- A short option, with what follows it or its equals sign. -/
  | short (flag : Flag) (attached : Option (List Char))
  | unknown

/-- Cuts a text at its first equals sign. -/
def cutAtEquals (cs : List Char) : List Char × Option (List Char) :=
  match cs.dropWhile (· ≠ '=') with
  | [] => (cs, none)
  | _ :: value => (cs.takeWhile (· ≠ '='), some value)

def isDecimal (c : Char) : Bool := (Text.digitValue? c).isSome

/-- Whether a text holds digits, and no more than a line feed after them. -/
def isDigitRun (cs : List Char) : Bool :=
  cs.any isDecimal && [[], ['\n']].contains (cs.dropWhile isDecimal)

/-- A hyphen and a decimal number, which is no option. -/
def isNegativeNumber (cs : List Char) : Bool :=
  match cs with
  | '-' :: cs =>
    isDigitRun cs || match cs.dropWhile isDecimal with
      | '.' :: fraction => isDigitRun fraction
      | _ => false
  | _ => false

/-- The shape of an argument that names no option. -/
def strangeShape (s : String) (cs : List Char) : Shape :=
  if isNegativeNumber cs || cs.contains ' ' then .operand s else .unknown

/-- The shape of an argument. A shortened option that could be several is an error at once. -/
def shapeOf (s : String) : Except Stop Shape :=
  let cs := s.toList
  match cs with
  | '-' :: '-' :: _ =>
    let (name, value) := cutAtEquals cs
    match longFlags.lookup (String.ofList name) with
    | some flag => .ok (.long flag value)
    | none =>
      match longFlags.filter fun (long, _) => name.isPrefixOf long.toList with
      | [] => .ok (strangeShape s cs)
      | [(_, flag)] => .ok (.long flag value)
      | _ => .error .usage
  | '-' :: c :: rest =>
    match shortFlags.lookup c, rest with
    | none, _ => .ok (strangeShape s cs)
    | some flag, [] => .ok (.short flag none)
    | some flag, '=' :: value => .ok (.short flag (some value))
    | some flag, rest => .ok (.short flag (some rest))
  | _ => .ok (.operand s)

/-- The shapes of arguments in order. -/
def shapesOf : List String → Except Stop (List Shape)
  | [] => .ok []
  | s :: rest =>
    if s = "--" then .ok (.separator :: rest.map .operand)
    else do return (← shapeOf s) :: (← shapesOf rest)

/-- The arguments read so far, and whether one was left over. -/
structure Progress where
  arguments : Arguments
  leftOver : Bool

def Progress.start : Progress where
  arguments := {
    spec := none, output := .text "client.py", inlineSupport := false, defaultContentType := none,
    ungroupedTag := none, verbose := false }
  leftOver := false

def Progress.set (p : Progress) (flag : Flag) (value : Value) : Except Stop Progress :=
  let a := p.arguments
  match flag with
  | .help => .error .help
  | .output => .ok { p with arguments := { a with output := value } }
  | .inlineSupport => .ok { p with arguments := { a with inlineSupport := true } }
  | .defaultContentType => .ok { p with arguments := { a with defaultContentType := some value } }
  | .ungroupedTag => .ok { p with arguments := { a with ungroupedTag := some value } }
  | .verbose => .ok { p with arguments := { a with verbose := true } }

/-- Takes an operand: the first names the description. -/
def Progress.operand (p : Progress) (s : String) : Progress :=
  match p.arguments.spec with
  | none => { p with arguments := { p.arguments with spec := some s } }
  | some _ => { p with leftOver := true }

/-- Takes two hyphens that do not follow the operand which names the description. They are left
over once there is one. -/
def Progress.separator (p : Progress) : Progress :=
  { p with leftOver := p.leftOver || p.arguments.spec.isSome }

/-- The value that is attached to an option. -/
def attachedValue (cs : List Char) : Value :=
  if cs = ['-', '-'] then .list [] else .text (String.ofList cs)

/-- How a run of short options ends. -/
inductive RunEnd where
  /-- With an option that takes no value. -/
  | plain
  | value (flag : Flag) (value : Value)
  /-- With an option whose value is the next argument. -/
  | awaiting (flag : Flag)

/-- Reads a run of short options that take no value, up to one that does. A letter that names no
option is an error. -/
def shortRun (flag : Flag) (attached : List Char) : Except Stop (List Flag × RunEnd) :=
  if flag.takesValue then
    .ok ([], if attached = [] then .awaiting flag else .value flag (attachedValue attached))
  else
    match attached with
    | [] => .ok ([flag], .plain)
    | c :: cs =>
      match shortFlags.lookup c with
      | none => .error .usage
      | some next => do
        let (flags, runEnd) ← shortRun next cs
        return (flag :: flags, runEnd)

/-- Reads the options of one argument. Nothing after an equals sign is a value, but only for an
option that takes one. -/
def shortOptions (flag : Flag) (attached : Option (List Char)) :
    Except Stop (List Flag × RunEnd) :=
  match attached with
  | some [] => if flag.takesValue then .ok ([], .value flag (.text "")) else .error .usage
  | attached => shortRun flag (attached.getD [])

/-- The operand that an option takes its value from. -/
def nextOperand : List Shape → Except Stop (Value × List Shape)
  | .operand s :: rest => .ok (.text s, rest)
  | _ => .error .usage

theorem length_nextOperand {shapes rest : List Shape} {v : Value}
    (h : nextOperand shapes = .ok (v, rest)) : rest.length < shapes.length := by
  unfold nextOperand at h
  split at h
  · cases h
    simp
  · cases h

/-- Sets options that take no value. -/
def Progress.setAll (p : Progress) (flags : List Flag) : Except Stop Progress :=
  flags.foldlM (fun p flag => p.set flag .null) p

def readShapes (shapes : List Shape) (p : Progress) : Except Stop Progress :=
  match shapes with
  | [] => .ok p
  | .operand s :: .separator :: rest | .operand s :: rest => readShapes rest (p.operand s)
  | .separator :: rest => readShapes rest p.separator
  | .unknown :: rest => readShapes rest { p with leftOver := true }
  | .long flag attached :: rest => do
    if flag.takesValue then
      match attached with
      | some cs => readShapes rest (← p.set flag (attachedValue cs))
      | none =>
        match _h : nextOperand rest with
        | .error stop => .error stop
        | .ok (value, rest') => readShapes rest' (← p.set flag value)
    else if attached.isSome then .error .usage
    else readShapes rest (← p.set flag .null)
  | .short flag attached :: rest => do
    let (flags, runEnd) ← shortOptions flag attached
    match runEnd with
    | .plain => readShapes rest (← p.setAll flags)
    | .value flag value => readShapes rest (← (← p.setAll flags).set flag value)
    | .awaiting flag =>
      match _h : nextOperand rest with
      | .error stop => .error stop
      | .ok (value, rest') => readShapes rest' (← (← p.setAll flags).set flag value)
termination_by shapes.length
decreasing_by
  all_goals
    simp only [List.length_cons]
    first
    | omega
    | have := length_nextOperand _h; omega

/-- What a command is to do. -/
structure Command where
  spec : String
  /-- None when the option for it was left without a value. -/
  output : Option FilePath
  options : Options
  verbose : Bool

/-- The command that arguments give, with defaults from the environment. -/
def parse (args : List String) (environment : List (String × String)) : Except Stop Command := do
  let p ← readShapes (← shapesOf args) .start
  let a := p.arguments
  match a.spec with
  | none => .error .usage
  | some spec =>
    if p.leftOver then .error .usage
    else
      let defaults := Options.ofEnvironment environment
      .ok {
        spec
        output := match a.output with
          | .text s => some (.ofText s)
          | _ => none
        options := {
          defaultContentType := a.defaultContentType.getD defaults.defaultContentType
          ungroupedTag := a.ungroupedTag.getD defaults.ungroupedTag
          inlineSupport := a.inlineSupport || defaults.inlineSupport }
        verbose := a.verbose }

end ApiClient.CommandLine

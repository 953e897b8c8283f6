import ApiClient.Json.Token
import ApiClient.Text.Utf8
import ApiClient.Yaml.Cursor

/-!
# Lexemes of a markup text

The parts of a text that have an inner structure: quoted, plain and block scalars, tags, anchors
and directives.
-/

namespace ApiClient.Yaml

/-- A tag as it is written: the handle of its prefix, if it has one, and the rest. -/
structure TagName where
  handle : Option String
  suffix : String

inductive Directive where
  | version (major : Nat)
  | handle (name expansion : String)
  | other

namespace Scan

/-! ## Quoted scalars -/

/-- The line breaks at the start of a continuation line, with the blanks around them dropped. -/
def quotedBreaks : Nat → Scan (List Char)
  | 0 => refuse
  | fuel + 1 => do
    if ← atDocumentMark then refuse
    skipWhile fun c => c = ' ' || c = '\t'
    if isBreak (← peek 0) then
      let b ← lineBreak
      return b ++ (← quotedBreaks fuel)
    else return []

/-- What a single character after a backslash stands for. -/
def escape? (c : Char) : Option Char :=
  [('0', '\x00'), ('a', '\x07'), ('b', '\x08'), ('t', '\t'), ('\t', '\t'), ('n', '\n'),
   ('v', '\x0b'), ('f', '\x0c'), ('r', '\r'), ('e', '\x1b'), (' ', ' '), ('"', '"'),
   ('\\', '\\'), ('/', '/'), ('N', '\x85'), ('_', '\xa0'), ('L', '\u2028'),
   ('P', '\u2029')].lookup c

/-- How many hexadecimal digits follow a letter that announces a code point. -/
def escapeWidth? (c : Char) : Option Nat := [('x', 2), ('u', 4), ('U', 8)].lookup c

/-- The number that exactly `n` hexadecimal digits write. -/
def hexNumber (n : Nat) : Scan Nat := do
  let ds := (← get).rest.take n
  if ds.length ≠ n || ds.any (Json.hexDigit? · |>.isNone) then refuse
  skip n
  return ds.foldl (fun m d => 16 * m + (Json.hexDigit? d).getD 0) 0

/-- The points of a quoted scalar up to the next blank or quote. -/
def quotedRun (double : Bool) : Nat → Scan (List Nat)
  | 0 => refuse
  | fuel + 1 => do
    let special (c : Char) := c = '\'' || c = '"' || c = '\\' || isBlankOrEnd c
    let run := Text.points (← takeWhile (!special ·))
    let c ← peek 0
    if !double && c = '\'' && (← peek 1) = '\'' then
      skip 2
      return run ++ 39 :: (← quotedRun double fuel)
    else if (double && c = '\'') || (!double && (c = '"' || c = '\\')) then
      skip 1
      return run ++ c.toNat :: (← quotedRun double fuel)
    else if double && c = '\\' then
      skip 1
      let e ← peek 0
      match escape? e, escapeWidth? e with
      | some meant, _ =>
        skip 1
        return run ++ meant.toNat :: (← quotedRun double fuel)
      | none, some width =>
        skip 1
        let n ← hexNumber width
        if 0x7FFFFFFF < n then throw .overflow
        if 0x10FFFF < n then throw (.fault .outOfRange)
        return run ++ n :: (← quotedRun double fuel)
      | none, none =>
        if isBreak e then
          let _ ← lineBreak
          let breaks ← quotedBreaks (← stepsLeft)
          return run ++ breaks.map Char.toNat ++ (← quotedRun double fuel)
        else refuse
    else return run

/-- Blanks inside a quoted scalar. A single line break becomes a space. -/
def quotedBlanks : Scan (List Nat) := do
  let blanks ← takeWhile fun c => c = ' ' || c = '\t'
  let c ← peek 0
  if isEnd c then refuse
  else if isBreak c then
    let first ← lineBreak
    let breaks ← quotedBreaks (← stepsLeft)
    let lead := if first ≠ ['\n'] then first else if breaks = [] then [' '] else []
    return (lead ++ breaks).map Char.toNat
  else return blanks.map Char.toNat

def quotedRest (double : Bool) : Nat → Scan (List Nat)
  | 0 => refuse
  | fuel + 1 => do
    let run ← quotedRun double (← stepsLeft)
    if (← peek 0) = (if double then '"' else '\'') then
      skip 1
      return run
    else
      let blanks ← quotedBlanks
      return run ++ blanks ++ (← quotedRest double fuel)

/-- A scalar in single or double quotes. Halves of a pair that escapes write stay alone. -/
def quotedScalar (double : Bool) : Scan String := do
  skip 1
  return String.ofList (Text.ofPoints (← quotedRest double (← stepsLeft)))

/-! ## Plain scalars -/

/-- The characters of a plain scalar up to a blank or an indicator. -/
def plainRun (inFlow : Bool) : List Char → List Char
  | [] => []
  | c :: cs =>
    let next := cs.headD '\x00'
    let inner (d : Char) := d = ',' || d = '[' || d = ']' || d = '\x7b' || d = '\x7d'
    let stops := isBlankOrEnd c
      || (c = ':' && (isBlankOrEnd next || (inFlow && inner next)))
      || (inFlow && (inner c || c = '?'))
    if stops then [] else c :: plainRun inFlow cs

/-- The breaks that follow the first one after a plain scalar; none when a document mark ends
it. -/
def plainBreaks : Nat → Scan (Option (List Char))
  | 0 => refuse
  | fuel + 1 => do
    if ← atDocumentMark then return none
    skipWhile (· = ' ')
    if isBreak (← peek 0) then
      let b ← lineBreak
      return (← plainBreaks fuel).map (b ++ ·)
    else return some []

/-- The blanks after a part of a plain scalar, and whether a line break is among them. -/
def plainBlanks : Scan (List Char × Bool) := do
  let blanks ← takeWhile (· = ' ')
  if isBreak (← peek 0) then
    let first ← lineBreak
    match ← plainBreaks (← stepsLeft) with
    | none => return ([], true)
    | some breaks =>
      let lead := if first ≠ ['\n'] then first else if breaks = [] then [' '] else []
      return (lead ++ breaks, true)
  else return (blanks, false)

/-- A plain scalar inside an indentation, and whether it extends over a line break. -/
def plainScalar (inFlow : Bool) (indent : Int) : Nat → List Char → Bool → Scan (List Char × Bool)
  | 0, _, _ => refuse
  | fuel + 1, blanks, broken => do
    if (← peek 0) = '#' then return ([], broken)
    let run := plainRun inFlow (← get).rest
    if run = [] then return ([], broken)
    skip run.length
    let (after, broke) ← plainBlanks
    let column : Int := (← get).column
    let ends := after = [] || (← peek 0) = '#' || (!inFlow && column < indent)
    if ends then return (blanks ++ run, broke)
    else
      let (more, brokeLater) ← plainScalar inFlow indent fuel after broke
      return (blanks ++ run ++ more, brokeLater)

/-! ## Block scalars -/

/-- What is done with the line breaks at the end of a block scalar. -/
inductive Chomping where
  | strip
  | clip
  | keep
  deriving DecidableEq

def chomping? (c : Char) : Option Chomping :=
  if c = '+' then some .keep else if c = '-' then some .strip else none

/-- The digit of an indentation indicator, which must not be zero. -/
def indentIndicator : Scan (Option Nat) := do
  let c ← peek 0
  if !c.isDigit then return none
  if c = '0' then refuse
  skip 1
  return some (c.toNat - 48)

/-- The indicators after the sign of a block scalar, in either order. -/
def blockIndicators : Scan (Chomping × Option Nat) := do
  let result ← match chomping? (← peek 0) with
    | some chomping => do
      skip 1
      pure (chomping, ← indentIndicator)
    | none => do
      let indent ← indentIndicator
      match indent, chomping? (← peek 0) with
      | some _, some chomping =>
        skip 1
        pure (chomping, indent)
      | _, _ => pure (.clip, indent)
  if !isSpaceOrEnd (← peek 0) then refuse
  return result

/-- The breaks before the first line, and the greatest column that its spaces reach. -/
def leadingBreaks : Nat → Nat → Scan (List Char × Nat)
  | 0, _ => refuse
  | fuel + 1, widest => do
    let c ← peek 0
    if c = ' ' then
      skip 1
      leadingBreaks fuel (max widest (← get).column)
    else if isBreak c then
      let b ← lineBreak
      let (breaks, widest) ← leadingBreaks fuel widest
      return (b ++ breaks, widest)
    else return ([], widest)

/-- Skips spaces before a column. -/
def skipIndent (indent : Nat) : Nat → Scan Unit
  | 0 => return
  | fuel + 1 => do
    if (← get).column < indent && (← peek 0) = ' ' then
      skip 1
      skipIndent indent fuel

/-- The breaks of empty lines, with the indentation of the line after them skipped. -/
def blockBreaks (indent : Nat) : Nat → Scan (List Char)
  | 0 => refuse
  | fuel + 1 => do
    skipIndent indent indent
    if isBreak (← peek 0) then
      let b ← lineBreak
      return b ++ (← blockBreaks indent fuel)
    else return []

/-- The lines of a block scalar from a first one on, which `breaks` precede. The result is the
text, the break of the last line and the breaks after it. -/
def blockLines (folded : Bool) (indent : Nat) : Nat → List Char →
    Scan (List Char × List Char × List Char)
  | 0, _ => refuse
  | fuel + 1, breaks => do
    let c ← peek 0
    if (← get).column ≠ indent || isEnd c then return ([], [], breaks)
    let flush := c ≠ ' ' && c ≠ '\t'
    let line ← takeWhile (!isBreakOrEnd ·)
    let last ← lineBreak
    let after ← blockBreaks indent (← stepsLeft)
    let next ← peek 0
    if (← get).column = indent && !isEnd next then
      let joint :=
        if folded && last = ['\n'] && flush && next ≠ ' ' && next ≠ '\t' then
          if after = [] then [' '] else []
        else last
      let (text, lastBreak, trailing) ← blockLines folded indent fuel after
      return (breaks ++ line ++ joint ++ text, lastBreak, trailing)
    else return (breaks ++ line, last, after)

/-- A literal or folded scalar inside an indentation. -/
def blockScalar (folded : Bool) (outer : Int) : Scan String := do
  skip 1
  let (chomping, increment) ← blockIndicators
  restOfLine
  let least := (max (outer + 1) 1).toNat
  let (indent, breaks) ← match increment with
    | none => do
      let (breaks, widest) ← leadingBreaks (← stepsLeft) 0
      pure (max least widest, breaks)
    | some n => do
      let indent := least + n - 1
      pure (indent, ← blockBreaks indent (← stepsLeft))
  let (text, last, trailing) ← blockLines folded indent (← stepsLeft) breaks
  return String.ofList <| text
    ++ (if chomping = .strip then [] else last)
    ++ (if chomping = .keep then trailing else [])

/-! ## Anchors, tags and directives -/

/-- A nonempty name. -/
def name : Scan String := do
  let cs ← takeWhile isNameChar
  if cs = [] then refuse
  return String.ofList cs

/-- The name after the sign of an anchor or alias. -/
def anchorName : Scan String := do
  skip 1
  let n ← name
  let c ← peek 0
  if !(isBlankOrEnd c || ['?', ':', ',', ']', '\x7d', '%', '@', '`'].contains c) then refuse
  return n

def isUriChar (c : Char) : Bool :=
  c.isAlphanum || "-;/?:@&=+$,_.!~*'()[]".toList.contains c

/-- The octets that escapes write. -/
def uriOctets : Nat → Scan (List UInt8)
  | 0 => refuse
  | fuel + 1 => do
    if (← peek 0) ≠ '%' then return []
    skip 1
    let n ← hexNumber 2
    return UInt8.ofNat n :: (← uriOctets fuel)

def uriRest : Nat → Scan (List Char)
  | 0 => refuse
  | fuel + 1 => do
    let run ← takeWhile isUriChar
    if (← peek 0) = '%' then
      match Text.decodeUtf8? (← uriOctets (← stepsLeft)) with
      | some cs => return run ++ Text.keep cs ++ (← uriRest fuel)
      | none => refuse
    else return run

/-- The characters of a tag, with escapes replaced; there is at least one. -/
def uri : Scan String := do
  let start := (← get).index
  let cs ← uriRest (← stepsLeft)
  if (← get).index = start then refuse
  return String.ofList cs

/-- A handle: one sign, or a name between two of them. -/
def tagHandle : Scan String := do
  if (← peek 0) ≠ '!' then refuse
  if (← peek 1) = ' ' then
    skip 1
    return "!"
  let inner := ((← get).rest.drop 1).takeWhile isNameChar
  if (← peek (inner.length + 1)) ≠ '!' then refuse
  skip (inner.length + 2)
  return "!" ++ String.ofList inner ++ "!"

/-- Whether a second sign stands before the next space. -/
def usesHandle : List Char → Bool
  | [] => false
  | c :: cs => if isSpaceOrEnd c then false else if c = '!' then true else usesHandle cs

def tag : Scan TagName := do
  let c ← peek 1
  let result ←
    if c = '<' then do
      skip 2
      let suffix ← uri
      if (← peek 0) ≠ '>' then refuse
      skip 1
      pure { handle := none, suffix }
    else if isBlankOrEnd c then do
      skip 1
      pure { handle := none, suffix := "!" }
    else if usesHandle ((← get).rest.drop 1) then do
      let handle ← tagHandle
      pure { handle := some handle, suffix := ← uri }
    else do
      skip 1
      pure { handle := some "!", suffix := ← uri }
  if !isSpaceOrEnd (← peek 0) then refuse
  return result

def number : Scan Nat := do
  let ds ← takeWhile Char.isDigit
  if ds = [] then refuse
  if Text.maxNumeralDigits < ds.length then throw (.fault .outOfRange)
  return (Text.readNat? ds).getD 0

def versionValue : Scan Directive := do
  skipWhile (· = ' ')
  let major ← number
  if (← peek 0) ≠ '.' then refuse
  skip 1
  let _ ← number
  if !isSpaceOrEnd (← peek 0) then refuse
  return .version major

def handleValue : Scan Directive := do
  skipWhile (· = ' ')
  let name ← tagHandle
  if (← peek 0) ≠ ' ' then refuse
  skipWhile (· = ' ')
  let expansion ← uri
  if !isSpaceOrEnd (← peek 0) then refuse
  return .handle name expansion

def directive : Scan Directive := do
  skip 1
  let n ← name
  if !isSpaceOrEnd (← peek 0) then refuse
  let d ← match n with
    | "YAML" => versionValue
    | "TAG" => handleValue
    | _ => do
      skipWhile (!isBreakOrEnd ·)
      pure .other
  restOfLine
  return d

end Scan

end ApiClient.Yaml

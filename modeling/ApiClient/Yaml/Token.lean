import ApiClient.Yaml.Lexeme

/-!
# Tokens of a markup text

A text as a list of tokens. Indentation shows as tokens that open and end blocks. That a node was
a key may turn out only after it, at a colon on the same line; the tokens that mark a key are
then put before the node. Until then neither the node nor what follows it is given out. Reading
stops at the first fault; the list then ends in a token that carries it, after those that were
given out before.
-/

namespace ApiClient.Yaml

inductive Token where
  | directive (d : Directive)
  | documentStart
  | documentEnd
  | streamEnd
  | blockSequenceStart
  | blockMappingStart
  | blockEnd
  | flowSequenceStart
  | flowSequenceEnd
  | flowMappingStart
  | flowMappingEnd
  | blockEntry
  | flowEntry
  | key
  | value
  | aliasOf (name : String)
  | anchor (name : String)
  | tag (t : TagName)
  | scalar (text : String) (plain : Bool)
  | invalid (why : Refusal)

/-- A node that may turn out to be a key: the number of its first token and where it begins. A
required one must turn out so. -/
structure PossibleKey where
  token : Nat
  required : Bool
  index : Nat
  line : Nat
  column : Nat

/-- The state of reading. Each token comes with those that were put before it later on; possible
keys are kept for every depth of brackets. -/
structure Lexer where
  cursor : Cursor
  depth : Nat
  indent : Int
  indents : List Int
  keyAllowed : Bool
  possible : List (Nat × PossibleKey)
  tokens : Array (List Token × Token)
  done : Bool

namespace Lexer

def ofText (cs : List Char) : Lexer where
  cursor := .ofText cs
  depth := 0
  indent := -1
  indents := []
  keyAllowed := true
  possible := []
  tokens := #[]
  done := false

def push (l : Lexer) (t : Token) : Lexer := { l with tokens := l.tokens.push ([], t) }

/-- Puts tokens before the one with number `k`. -/
def putBefore (l : Lexer) (k : Nat) (ts : List Token) : Lexer :=
  { l with tokens := l.tokens.modify k fun (before, t) => (ts ++ before, t) }

def column (l : Lexer) : Int := l.cursor.column

/-- Forgets possible keys that are on an earlier line or too far back. -/
def dropStale (l : Lexer) : Except Refusal Lexer :=
  let stale (k : PossibleKey) := k.line ≠ l.cursor.line || 1024 < l.cursor.index - k.index
  if l.possible.any fun (_, k) => stale k && k.required then .error .malformed
  else .ok { l with possible := l.possible.filter fun (_, k) => !stale k }

/-- Forgets the possible key of the current depth. -/
def dropKey (l : Lexer) : Except Refusal Lexer :=
  match l.possible.lookup l.depth with
  | none => .ok l
  | some k =>
    if k.required then .error .malformed
    else .ok { l with possible := l.possible.filter (·.1 ≠ l.depth) }

/-- Notes that a node begins here which may be a key. -/
def saveKey (l : Lexer) : Except Refusal Lexer := do
  if !l.keyAllowed then return l
  let required := l.depth = 0 && l.indent = l.column
  let l ← l.dropKey
  let k : PossibleKey := {
    token := l.tokens.size, required, index := l.cursor.index, line := l.cursor.line,
    column := l.cursor.column }
  return { l with possible := (l.depth, k) :: l.possible }

/-- Ends the blocks that are indented deeper than a column. -/
def unwindTo (column : Int) : List Int → Lexer → Lexer
  | [], l => l
  | outer :: indents, l =>
    if column < l.indent then unwindTo column indents { l.push .blockEnd with indent := outer, indents }
    else l

def unwind (l : Lexer) (column : Int) : Lexer :=
  if l.depth = 0 then unwindTo column l.indents l else l

/-- Opens a block at a column, unless one is open there. -/
def openBlock (l : Lexer) (column : Int) : Lexer × Bool :=
  if l.indent < column then
    ({ l with indent := column, indents := l.indent :: l.indents }, true)
  else (l, false)

/-- Opens a block at the current column and marks it by a token. -/
def openHere (l : Lexer) (t : Token) : Lexer :=
  let (l, isNew) := l.openBlock l.column
  if isNew then l.push t else l

def skip (l : Lexer) (n : Nat) : Lexer := { l with cursor := l.cursor.advanceBy n }

/-- Reads a lexeme. -/
def read {α : Type} (l : Lexer) (s : Scan α) : Except Refusal (α × Lexer) := do
  let (a, cursor) ← s.run l.cursor
  return (a, { l with cursor })

/-- Skips spaces, comments and line breaks. A break outside of brackets lets a key begin. -/
def skipBlanks : Nat → Lexer → Except Refusal Lexer
  | 0, l => .ok l
  | fuel + 1, l => do
    let l := if l.cursor.index = 0 && l.cursor.peek 0 = '\uFEFF' then l.skip 1 else l
    let (_, l) ← l.read (Scan.skipWhile (· = ' '))
    let (_, l) ← if l.cursor.peek 0 = '#' then l.read (Scan.skipWhile (!isBreakOrEnd ·))
      else .ok ((), l)
    if isBreak (l.cursor.peek 0) then
      let (_, l) ← l.read Scan.lineBreak
      skipBlanks fuel (if l.depth = 0 then { l with keyAllowed := true } else l)
    else return l

/-- A token of its own line, before which all blocks end. -/
def atMargin (l : Lexer) : Except Refusal Lexer := do
  return { ← (l.unwind (-1)).dropKey with keyAllowed := false }

def documentMark (l : Lexer) (t : Token) : Except Refusal Lexer := do
  return ((← l.atMargin).skip 3).push t

def openFlow (l : Lexer) (t : Token) : Except Refusal Lexer := do
  let l ← l.saveKey
  return ({ l with depth := l.depth + 1, keyAllowed := true }.skip 1).push t

def closeFlow (l : Lexer) (t : Token) : Except Refusal Lexer := do
  let l ← l.dropKey
  return ({ l with depth := l.depth - 1, keyAllowed := false }.skip 1).push t

def flowEntry (l : Lexer) : Except Refusal Lexer := do
  return ((← { l with keyAllowed := true }.dropKey).skip 1).push .flowEntry

def blockEntry (l : Lexer) : Except Refusal Lexer := do
  if l.depth = 0 && !l.keyAllowed then throw .malformed
  let l := if l.depth = 0 then l.openHere .blockSequenceStart else l
  return ((← { l with keyAllowed := true }.dropKey).skip 1).push .blockEntry

def explicitKey (l : Lexer) : Except Refusal Lexer := do
  if l.depth = 0 && !l.keyAllowed then throw .malformed
  let l := if l.depth = 0 then l.openHere .blockMappingStart else l
  return ((← { l with keyAllowed := l.depth = 0 }.dropKey).skip 1).push .key

/-- A colon. It makes a key of the possible key of its depth, which opens a block where it
begins; without one the key is empty or was marked before. -/
def valueMark (l : Lexer) : Except Refusal Lexer := do
  let l ← match l.possible.lookup l.depth with
    | some k => do
      let l := { l with
        possible := l.possible.filter (·.1 ≠ l.depth)
        keyAllowed := false }
      let (l, isNew) := if l.depth = 0 then l.openBlock k.column else (l, false)
      pure (l.putBefore k.token (if isNew then [.blockMappingStart, .key] else [.key]))
    | none => do
      if l.depth = 0 && !l.keyAllowed then throw .malformed
      let l := if l.depth = 0 then l.openHere .blockMappingStart else l
      { l with keyAllowed := l.depth = 0 }.dropKey
  return (l.skip 1).push .value

/-- A lexeme that may be a key, or the beginning of one. -/
def keyLike (l : Lexer) (s : Scan Token) : Except Refusal Lexer := do
  let l ← l.saveKey
  let (t, l) ← { l with keyAllowed := false }.read s
  return l.push t

def plain (l : Lexer) : Except Refusal Lexer := do
  let l ← l.saveKey
  let ((cs, broken), l) ←
    l.read (do Scan.plainScalar (0 < l.depth) (l.indent + 1) (← Scan.stepsLeft) [] false)
  return { l with keyAllowed := broken }.push (.scalar (String.ofList cs) true)

def block (l : Lexer) (folded : Bool) : Except Refusal Lexer := do
  let l ← { l with keyAllowed := true }.dropKey
  let (text, l) ← l.read (Scan.blockScalar folded l.indent)
  return l.push (.scalar text false)

def directive (l : Lexer) : Except Refusal Lexer := do
  let (d, l) ← (← l.atMargin).read Scan.directive
  return l.push (.directive d)

def finish (l : Lexer) : Except Refusal Lexer := do
  let l ← l.atMargin
  return { l with possible := [], done := true }.push .streamEnd

/-- Whether a plain scalar may begin with `c`, followed by `next`. -/
def startsPlain (inFlow : Bool) (c next : Char) : Bool :=
  !(isBlankOrEnd c || "-?:,[]#&*!|>'\"%@`\x7b\x7d".toList.contains c)
    || (!isBlankOrEnd next && (c = '-' || (!inFlow && (c = '?' || c = ':'))))

/-- Reads what comes next: one token and those that its indentation calls for. -/
def step (l : Lexer) : Except Refusal Lexer := do
  let l ← skipBlanks (l.cursor.rest.length + 1) l
  let l := (← l.dropStale).unwind l.column
  let c := l.cursor.peek 0
  let next := l.cursor.peek 1
  let inFlow := 0 < l.depth
  let marked (c : Char) := l.cursor.column = 0 && l.cursor.rest.take 3 = [c, c, c]
    && isBlankOrEnd (l.cursor.peek 3)
  if isEnd c then l.finish
  else if c = '%' && l.cursor.column = 0 then l.directive
  else if marked '-' then l.documentMark .documentStart
  else if marked '.' then l.documentMark .documentEnd
  else if c = '[' then l.openFlow .flowSequenceStart
  else if c = '\x7b' then l.openFlow .flowMappingStart
  else if c = ']' then l.closeFlow .flowSequenceEnd
  else if c = '\x7d' then l.closeFlow .flowMappingEnd
  else if c = ',' then l.flowEntry
  else if c = '-' && isBlankOrEnd next then l.blockEntry
  else if c = '?' && (inFlow || isBlankOrEnd next) then l.explicitKey
  else if c = ':' && (inFlow || isBlankOrEnd next) then l.valueMark
  else if c = '*' then l.keyLike (return .aliasOf (← Scan.anchorName))
  else if c = '&' then l.keyLike (return .anchor (← Scan.anchorName))
  else if c = '!' then l.keyLike (return .tag (← Scan.tag))
  else if c = '|' && !inFlow then l.block false
  else if c = '>' && !inFlow then l.block true
  else if c = '\'' then l.keyLike (return .scalar (← Scan.quotedScalar false) false)
  else if c = '"' then l.keyLike (return .scalar (← Scan.quotedScalar true) false)
  else if startsPlain inFlow c next then l.plain
  else .error .malformed

/-- Drops the tokens that are held back because a node before them may turn out to be a key. -/
def dropHeld (l : Lexer) : Lexer :=
  let given := l.possible.foldl (fun least e => min least e.2.token) l.tokens.size
  { l with tokens := l.tokens.take given }

/-- Reads to the end, or to the first fault. -/
def run : Nat → Lexer → Lexer
  | 0, l => l
  | fuel + 1, l =>
    if l.done then l
    else match l.step.bind dropStale with
      | .ok l => run fuel l
      | .error why => l.dropHeld.push (.invalid why)

end Lexer

/-- The tokens of a text. -/
def tokens (cs : List Char) : List Token :=
  ((Lexer.ofText cs).run (cs.length + 2)).tokens.toList.flatMap fun (before, t) => before ++ [t]

end ApiClient.Yaml

import ApiClient.Fault
import ApiClient.Text.Point

/-!
# Positions in a markup text

A cursor is a place in a text, with its line and column. Past the end stands the null character,
which no text holds.
-/

namespace ApiClient.Yaml

/-- Why a text is refused: it is malformed, or a value written in it is. -/
inductive Refusal where
  | malformed
  /-- A number beyond the range of machine numbers. -/
  | overflow
  | fault (f : Fault)
  deriving DecidableEq

structure Cursor where
  rest : List Char
  index : Nat
  line : Nat
  column : Nat

def isBreak (c : Char) : Bool :=
  c = '\r' || c = '\n' || c = '\x85' || c = '\u2028' || c = '\u2029'

def isEnd (c : Char) : Bool := c = '\x00'

def isBreakOrEnd (c : Char) : Bool := isBreak c || isEnd c

def isSpaceOrEnd (c : Char) : Bool := c = ' ' || isBreakOrEnd c

def isBlankOrEnd (c : Char) : Bool := c = '\t' || isSpaceOrEnd c

/-- The characters of names of anchors, directives and tag handles. -/
def isNameChar (c : Char) : Bool := c.isAlphanum || c = '-' || c = '_'

namespace Cursor

def ofText (cs : List Char) : Cursor := { rest := cs, index := 0, line := 0, column := 0 }

/-- The character `k` places ahead. -/
def peek (c : Cursor) (k : Nat) : Char := c.rest.getD k '\x00'

/-- Moves past one character. A byte order mark takes no column, and the mark of a reserved
character, which is no point of its own, no place at all. -/
def advance (c : Cursor) : Cursor :=
  match c.rest with
  | [] => c
  | ch :: rest =>
    if ch = Text.mark then { c with rest } else
    let c := { c with rest, index := c.index + 1 }
    if ch = '\r' then
      if rest.head? = some '\n' then { c with column := c.column + 1 }
      else { c with line := c.line + 1, column := 0 }
    else if isBreak ch then { c with line := c.line + 1, column := 0 }
    else if ch = '\uFEFF' then c
    else { c with column := c.column + 1 }

def advanceBy (c : Cursor) : Nat → Cursor
  | 0 => c
  | n + 1 => c.advance.advanceBy n

end Cursor

/-- Reading from a cursor on. -/
abbrev Scan := StateT Cursor (Except Refusal)

namespace Scan

def refuse {α : Type} : Scan α := throw .malformed

def peek (k : Nat) : Scan Char := return (← get).peek k

def skip (n : Nat) : Scan Unit := modify (·.advanceBy n)

/-- Takes the longest run of characters that satisfy `p`. -/
def takeWhile (p : Char → Bool) : Scan (List Char) := do
  let run := (← get).rest.takeWhile p
  skip run.length
  return run

def skipWhile (p : Char → Bool) : Scan Unit := do
  let _ ← takeWhile p

/-- Takes a line break, if there is one; all but two kinds of it are read as a line feed. -/
def lineBreak : Scan (List Char) := do
  let c ← peek 0
  if c = '\r' || c = '\n' || c = '\x85' then
    skip (if c = '\r' && (← peek 1) = '\n' then 2 else 1)
    return ['\n']
  else if c = '\u2028' || c = '\u2029' then
    skip 1
    return [c]
  else return []

/-- Whether a mark between documents stands here: three equal signs with a blank after them. -/
def atDocumentMark : Scan Bool := do
  let c ← get
  let three := c.rest.take 3
  return (three = ['-', '-', '-'] || three = ['.', '.', '.']) && isBlankOrEnd (c.peek 3)

/-- A bound on the steps that remain: every step takes a character. -/
def stepsLeft : Scan Nat := return (← get).rest.length + 1

/-- Skips spaces and a comment up to the end of the line, and requires that nothing else
follows. -/
def restOfLine : Scan Unit := do
  skipWhile (· = ' ')
  if (← peek 0) = '#' then skipWhile (!isBreakOrEnd ·)
  if !isBreakOrEnd (← peek 0) then refuse
  let _ ← lineBreak

end Scan

end ApiClient.Yaml

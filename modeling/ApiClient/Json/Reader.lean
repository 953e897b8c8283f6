import ApiClient.Json.Token
import ApiClient.Value

/-!
# Reading the interchange notation

Tokens are put together by a machine that keeps the open lists and maps. A later entry of a map
replaces an earlier one of the same key in its place.
-/

namespace ApiClient.Json

/-- Why a text is refused: it is malformed, or an integer in it has too many digits. -/
abbrev Refusal := Number.Refusal

/-- A list or map that is still open, the latest part first. -/
inductive Frame where
  | list (items : List Value)
  | map (entries : List (Value × Value)) (key : String)

/-- What may come next. -/
inductive Expectation where
  | value
  | valueOrClose
  | key
  | keyOrClose
  | colon
  | separator
  | nothing
  deriving DecidableEq

structure State where
  frames : List Frame
  expected : Expectation
  result : Value

/-- Adds a finished value to the innermost open list or map. -/
def State.put (s : State) (v : Value) : State :=
  match s.frames with
  | [] => { s with expected := .nothing, result := v }
  | .list items :: frames => { s with frames := .list (v :: items) :: frames, expected := .separator }
  | .map entries key :: frames =>
    { s with frames := .map ((.text key, v) :: entries) key :: frames, expected := .separator }

/-- Closes the innermost list or map. -/
def State.close (s : State) : State :=
  match s.frames with
  | [] => s
  | .list items :: frames => State.put { s with frames } (.list items.reverse)
  | .map entries _ :: frames => State.put { s with frames } (Value.ofEntries entries.reverse)

def State.expectsValue (s : State) : Bool := s.expected = .value || s.expected = .valueOrClose

def State.expectsKey (s : State) : Bool := s.expected = .key || s.expected = .keyOrClose

/-- The integer that a sign and digits write. -/
def integerOf (negative : Bool) (digits : List Char) : Except Refusal Int :=
  Number.readInt 10 (if negative then '-' :: digits else digits)

/-- Whether the innermost open part is a list. -/
def State.inList (s : State) : Bool :=
  match s.frames with
  | .list _ :: _ => true
  | _ => false

def State.step (s : State) (t : Token) : Except Refusal State :=
  let value (v : Value) := if s.expectsValue then .ok (s.put v) else .error .malformed
  match t with
  | .null => value .null
  | .bool b => value (.bool b)
  | .float x => value (.float x)
  | .integer negative digits =>
    if s.expectsValue then (integerOf negative digits).map fun n => s.put (.int n)
    else .error .malformed
  | .text key =>
    if s.expectsKey then
      match s.frames with
      | .map entries _ :: frames =>
        .ok { s with frames := .map entries key :: frames, expected := .colon }
      | _ => .error .malformed
    else value (.text key)
  | .openList =>
    if s.expectsValue then
      .ok { s with frames := .list [] :: s.frames, expected := .valueOrClose }
    else .error .malformed
  | .openMap =>
    if s.expectsValue then
      .ok { s with frames := .map [] "" :: s.frames, expected := .keyOrClose }
    else .error .malformed
  | .closeList =>
    if s.inList && (s.expected = .separator || s.expected = .valueOrClose) then .ok s.close
    else .error .malformed
  | .closeMap =>
    if !s.inList && !s.frames.isEmpty && (s.expected = .separator || s.expected = .keyOrClose)
    then .ok s.close
    else .error .malformed
  | .comma =>
    if s.expected = .separator then
      .ok { s with expected := if s.inList then .value else .key }
    else .error .malformed
  | .colon => if s.expected = .colon then .ok { s with expected := .value } else .error .malformed
  | .invalid => .error .malformed

/-- Reads the one value that a text holds. -/
def readChars (cs : List Char) : Except Refusal Value := do
  let s ← (tokens cs).foldlM State.step { frames := [], expected := .value, result := .null }
  if s.expected = .nothing then .ok s.result else .error .malformed

def read (s : String) : Except Refusal Value := readChars s.toList

end ApiClient.Json

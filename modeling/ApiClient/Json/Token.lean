import ApiClient.Number.Reading
import ApiClient.Text.Point

/-!
# Tokens of the interchange notation

A text in the interchange notation as a list of tokens. Reading stops at the first character that
begins no token, and the list then ends in a token that no value can hold.
-/

namespace ApiClient.Json

inductive Token where
  | openList
  | closeList
  | openMap
  | closeMap
  | comma
  | colon
  | null
  | bool (b : Bool)
  | text (s : String)
  /-- An integer's sign and digits. -/
  | integer (negative : Bool) (digits : List Char)
  | float (x : Binary64)
  | invalid
  deriving DecidableEq

def isSpace (c : Char) : Bool := c = ' ' || c = '\t' || c = '\n' || c = '\r'

def hexDigit? (c : Char) : Option Nat :=
  if '0' ≤ c ∧ c ≤ '9' then some (c.toNat - 48)
  else if 'a' ≤ c ∧ c ≤ 'f' then some (c.toNat - 87)
  else if 'A' ≤ c ∧ c ≤ 'F' then some (c.toNat - 55)
  else none

/-- The number that four hexadecimal digits write. -/
def fourHex? (a b c d : Char) : Option Nat := do
  return 4096 * (← hexDigit? a) + 256 * (← hexDigit? b) + 16 * (← hexDigit? c) + (← hexDigit? d)

def simpleEscape? (c : Char) : Option Char :=
  if c = '"' ∨ c = '\\' ∨ c = '/' then some c
  else if c = 'b' then some '\x08'
  else if c = 'f' then some '\x0c'
  else if c = 'n' then some '\n'
  else if c = 'r' then some '\r'
  else if c = 't' then some '\t'
  else none

/-- Reads a text up to its closing quote: its characters and what follows. Two escapes in a row
that write the halves of a pair write one character. -/
def readText : List Char → Option (List Char × List Char)
  | '"' :: cs => some ([], cs)
  | '\\' :: 'u' :: a :: b :: c :: d :: cs =>
    match fourHex? a b c d, cs with
    | none, _ => none
    | some high, '\\' :: 'u' :: e :: f :: g :: h :: cs' =>
      if Text.isHighHalf high then
        match fourHex? e f g h with
        | none => none
        | some low =>
          if Text.isLowHalf low then
            (readText cs').map fun (t, rest) =>
              (Text.keepPoint (Text.joinHalves high low) ++ t, rest)
          else (readText ('\\' :: 'u' :: e :: f :: g :: h :: cs')).map fun (t, rest) =>
            (Text.keepPoint high ++ t, rest)
      else (readText ('\\' :: 'u' :: e :: f :: g :: h :: cs')).map fun (t, rest) =>
        (Text.keepPoint high ++ t, rest)
    | some n, cs => (readText cs).map fun (t, rest) => (Text.keepPoint n ++ t, rest)
  | '\\' :: c :: cs =>
    match simpleEscape? c with
    | some e => (readText cs).map fun (t, rest) => (e :: t, rest)
    | none => none
  | c :: cs =>
    if c.toNat < 0x20 then none else (readText cs).map fun (t, rest) => (c :: t, rest)
  | [] => none

/-- The whole part of a number: a zero, or digits that do not begin with one. -/
def wholeDigits : List Char → List Char
  | '0' :: _ => ['0']
  | cs => cs.takeWhile Char.isDigit

/-- The length of a fraction, its point included; zero when no digit follows the point. -/
def fractionLength : List Char → Nat
  | '.' :: cs => match (cs.takeWhile Char.isDigit).length with
    | 0 => 0
    | n => n + 1
  | _ => 0

/-- The length of an exponent with its mark and sign; zero when it has no digits. -/
def exponentLength : List Char → Nat
  | c :: cs =>
    if c = 'e' ∨ c = 'E' then
      let sign := match cs with
        | '+' :: _ | '-' :: _ => 1
        | _ => 0
      match ((cs.drop sign).takeWhile Char.isDigit).length with
      | 0 => 0
      | n => n + sign + 1
    else 0
  | [] => 0

/-- Reads a number, its sign apart. -/
def readNumber (negative : Bool) (cs : List Char) : Option (Token × List Char) :=
  let whole := wholeDigits cs
  if whole = [] then none
  else
    let afterWhole := cs.drop whole.length
    let fraction := afterWhole.take (fractionLength afterWhole)
    let afterFraction := afterWhole.drop fraction.length
    let exponent := afterFraction.take (exponentLength afterFraction)
    let rest := afterFraction.drop exponent.length
    if fraction = [] ∧ exponent = [] then some (.integer negative whole, rest)
    else (Number.readMagnitude? negative (whole ++ fraction ++ exponent)).map fun x =>
      (.float x, rest)

/-- Reads the token at the start of a text. -/
def readToken : List Char → Option (Token × List Char)
  | '[' :: cs => some (.openList, cs)
  | ']' :: cs => some (.closeList, cs)
  | '{' :: cs => some (.openMap, cs)
  | '}' :: cs => some (.closeMap, cs)
  | ',' :: cs => some (.comma, cs)
  | ':' :: cs => some (.colon, cs)
  | '"' :: cs => (readText cs).map fun (t, rest) => (.text (String.ofList t), rest)
  | 'n' :: 'u' :: 'l' :: 'l' :: cs => some (.null, cs)
  | 't' :: 'r' :: 'u' :: 'e' :: cs => some (.bool true, cs)
  | 'f' :: 'a' :: 'l' :: 's' :: 'e' :: cs => some (.bool false, cs)
  | 'N' :: 'a' :: 'N' :: cs => some (.float (.nan 0), cs)
  | 'I' :: 'n' :: 'f' :: 'i' :: 'n' :: 'i' :: 't' :: 'y' :: cs => some (.float (.infinity false), cs)
  | '-' :: 'I' :: 'n' :: 'f' :: 'i' :: 'n' :: 'i' :: 't' :: 'y' :: cs =>
    some (.float (.infinity true), cs)
  | '-' :: cs => readNumber true cs
  | cs => readNumber false cs

/-- The tokens of a text; every token takes a character, which bounds their number. -/
def tokensWithin : Nat → List Char → List Token
  | 0, _ => []
  | fuel + 1, cs =>
    match cs.dropWhile isSpace with
    | [] => []
    | cs =>
      match readToken cs with
      | some (t, rest) => t :: tokensWithin fuel rest
      | none => [.invalid]

def tokens (cs : List Char) : List Token := tokensWithin (cs.length + 1) cs

end ApiClient.Json

import ApiClient.Text.Digit
import ApiClient.Text.Entity
import ApiClient.Fault

/-!
# Dispatch on the status of a response

A declared status is a code or a hundred of codes. The branches of a method are tried in order;
a response that none of them covers gives its raw content below 400 and an error from there on.
-/

namespace ApiClient

inductive StatusPattern where
  | exact (code : Nat)
  /-- The codes from `100 * hundred` on, below the next hundred. -/
  | range (hundred : Nat)
  deriving DecidableEq

namespace StatusPattern

/-- The least code that a pattern covers. -/
def least : StatusPattern → Nat
  | exact code => code
  | range hundred => 100 * hundred

def covers : StatusPattern → Int → Bool
  | exact code, c => c = code
  | range hundred, c => 100 * hundred ≤ c && c < 100 * hundred + 100

/-- The condition as the generated module spells it. -/
def text : StatusPattern → String
  | exact code => s!"response.status_code == {code}"
  | range hundred => s!"{100 * hundred} <= response.status_code < {100 * hundred + 100}"

def isExact : StatusPattern → Bool
  | exact _ => true
  | range _ => false

/-- Reads a declared status. Digits that are not decimal, or too many of them, are a fault; what
is neither a code nor a hundred is none. A line end after a hundred is overlooked. -/
def parse? (status : String) : Except Fault (Option StatusPattern) :=
  let cs := status.toList
  if !cs.isEmpty && cs.all Text.isDigit then
    if Text.maxNumeralDigits < cs.length then .error .outOfRange
    else match Text.readNat? cs with
      | some code => .ok (some (exact code))
      | none => .error .outOfRange
  else match cs with
    | [c, 'X', 'X'] | [c, 'X', 'X', '\n'] =>
      if '1' ≤ c ∧ c ≤ '5' then .ok (some (range (c.toNat - 48))) else .ok none
    | _ => .ok none

end StatusPattern

/-- What a method makes of a response. -/
inductive Outcome where
  | error
  | json
  | binary
  | text
  /-- The octets of the body as they are. -/
  | content
  deriving DecidableEq

def Outcome.label : Outcome → String
  | error => "error"
  | json => "json"
  | binary => "binary"
  | text => "text"
  | content => "content"

structure Branch where
  status : String
  condition : StatusPattern
  outcome : Outcome
  hint : String

/-- The outcome for a status code: that of the first branch that covers it. -/
def dispatch (branches : List Branch) (code : Int) : Outcome :=
  match branches.find? (·.condition.covers code) with
  | some b => b.outcome
  | none => if code < 400 then .content else .error

/-- The branches in the order in which they are tried: codes before hundreds. -/
def arrange (branches : List Branch) : List Branch :=
  branches.filter (·.condition.isExact) ++ branches.filter (!·.condition.isExact)

/-- The type of what a method returns: those of its successful branches, each once. An open one
makes the whole open. -/
def returnHint (branches : List Branch) : String :=
  let hints := ((branches.filter (·.outcome ≠ .error)).map (·.hint)).eraseDups
  if hints.isEmpty then "bytes"
  else if hints.contains "Any" then "Any"
  else " | ".intercalate hints

end ApiClient

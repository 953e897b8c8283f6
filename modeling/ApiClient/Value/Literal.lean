import ApiClient.Number.Shortest
import ApiClient.Text.Digit
import ApiClient.Text.Quoted
import ApiClient.Value

/-!
# Values as text

A value is shown plainly, as in a sentence, or as the literal that stands for it in the generated
module. The two differ for texts and moments only; within a list or a map every value is a
literal. An integer beyond the greatest numeral has no text.
-/

namespace ApiClient

def Date.literal (d : Date) : String := s!"datetime.date({d.year}, {d.month}, {d.day})"

/-- The literal of an offset in minutes: whole days first, so that the seconds are not negative. -/
def offsetLiteral (o : Int) : String :=
  if o = 0 then "datetime.timezone.utc"
  else
    let days := o.fdiv 1440
    let seconds := o.fmod 1440 * 60
    let parts := (if days = 0 then [] else [s!"days={days}"])
      ++ (if seconds = 0 then [] else [s!"seconds={seconds}"])
    "datetime.timezone(datetime.timedelta(" ++ ", ".intercalate parts ++ "))"

def Moment.literal (m : Moment) : String :=
  let fine := if m.micro ≠ 0 then [m.second, m.micro] else if m.second ≠ 0 then [m.second] else []
  let numbers := [m.date.year, m.date.month, m.date.day, m.hour, m.minute] ++ fine
  let zone := m.offset.toList.map fun o => "tzinfo=" ++ offsetLiteral o
  "datetime.datetime(" ++ ", ".intercalate (numbers.map toString ++ zone) ++ ")"

namespace Value

/-- What is shown for a value inside itself. -/
def ellipsis : Value → String
  | map _ => "\x7b...\x7d"
  | pair _ _ => "(...)"
  | _ => "[...]"

mutual

/-- The literal of a value inside others, which are known by marks and shown by an ellipsis. -/
def literalWithin (around : List (Nat × String)) : Value → String
  | null => "None"
  | bool b => if b then "True" else "False"
  | int n => toString n
  | float x => x.text
  | text s => quote s
  | bytes octets => String.ofList (Text.quotedOctets octets)
  | date d => d.literal
  | moment m => m.literal
  | pair a b => "(" ++ literalWithin around a ++ ", " ++ literalWithin around b ++ ")"
  | set [] => "set()"
  | set (v :: vs) => "\x7b" ++ ", ".intercalate (literals around (v :: vs)) ++ "\x7d"
  | list items => "[" ++ ", ".intercalate (literals around items) ++ "]"
  | map entries => "\x7b" ++ ", ".intercalate (entryLiterals around entries) ++ "\x7d"
  | knot mark v => (around.lookup mark).getD (literalWithin ((mark, v.ellipsis) :: around) v)
  | again mark => (around.lookup mark).getD ""

def literals (around : List (Nat × String)) : List Value → List String
  | [] => []
  | v :: vs => literalWithin around v :: literals around vs

def entryLiterals (around : List (Nat × String)) : List (Value × Value) → List String
  | [] => []
  | (k, v) :: es =>
    (literalWithin around k ++ ": " ++ literalWithin around v) :: entryLiterals around es

end

/-- The literal that stands for a value in the generated module. -/
def literal (v : Value) : String := literalWithin [] v

/-- The value as it appears inside a sentence. -/
def plain : Value → String
  | text s => s
  | date d => d.text
  | moment m => m.text " "
  | v => literal v

mutual

/-- Whether every integer inside a value is short enough for a numeral. -/
def writable : Value → Bool
  | int n => n.natAbs < Nat.pow 10 Text.maxNumeralDigits
  | pair a b => writable a && writable b
  | set members => allWritable members
  | list items => allWritable items
  | map entries => entriesWritable entries
  | knot _ v => writable v
  | _ => true

def allWritable : List Value → Bool
  | [] => true
  | v :: vs => writable v && allWritable vs

def entriesWritable : List (Value × Value) → Bool
  | [] => true
  | (k, v) :: es => writable k && writable v && entriesWritable es

end

def literal? (v : Value) : Except Fault String :=
  if v.writable then .ok v.literal else .error .outOfRange

def plain? (v : Value) : Except Fault String :=
  if v.writable then .ok v.plain else .error .outOfRange

end Value

end ApiClient

import ApiClient.Number.Reading
import ApiClient.Text.Case
import ApiClient.Value
import ApiClient.Yaml.Cursor

/-!
# Scalars of a markup text

The kind of a plain scalar follows from its text: words for truth values and null, numbers in
several bases and with colons between sexagesimal digits, dates and moments. A line feed at the
end does not count. Each kind reads its text in its own way.
-/

namespace ApiClient.Yaml

inductive Tag where
  | null
  | bool
  | int
  | float
  | text
  | bytes
  | timestamp
  | merge
  | value
  | list
  | map
  | set
  | pairs
  | unknown
  deriving DecidableEq

/-- The kind that a full tag names. -/
def Tag.ofName (name : String) : Tag :=
  ([("null", Tag.null), ("bool", .bool), ("int", .int), ("float", .float), ("str", .text),
    ("binary", .bytes), ("timestamp", .timestamp), ("merge", .merge), ("value", .value),
    ("seq", .list), ("map", .map), ("set", .set), ("omap", .pairs), ("pairs", .pairs)].find?
      fun (short, _) => name = "tag:yaml.org,2002:" ++ short).elim .unknown (·.2)

/-! ## Kinds of plain scalars -/

def truthWords : List String :=
  ["yes", "Yes", "YES", "no", "No", "NO", "true", "True", "TRUE", "false", "False", "FALSE",
   "on", "On", "ON", "off", "Off", "OFF"]

def nullWords : List String := ["", "~", "null", "Null", "NULL"]

/-- Signs that are kept for a use that no document makes of them. -/
def keptSigns : List String := ["!", "&", "*"]

/-- The text without a line feed at its end; a line feed alone stays. -/
def dropFinalBreak (cs : List Char) : List Char :=
  if cs.length ≤ 1 || cs.getLast? ≠ some '\n' then cs else cs.dropLast

def isDigitOrUnderscore (c : Char) : Bool := c.isDigit || c = '_'

/-- Whether sexagesimal digits, each after a colon, make up the text; there is at least one. -/
def isSexagesimalTail (cs : List Char) : Bool :=
  match cs with
  | ':' :: cs =>
    (cs.splitOn ':').all fun part =>
      match part with
      | [a] => a.isDigit
      | [a, b] => '0' ≤ a && a ≤ '5' && b.isDigit
      | _ => false
  | _ => false

def startsWithDigit (cs : List Char) : Bool := (cs.head?.map Char.isDigit).getD false

/-- Integers: binary, octal, decimal, hexadecimal and sexagesimal ones. -/
def isInteger (cs : List Char) : Bool :=
  let body := (Number.splitSign cs).2
  match body with
  | ['0'] => true
  | '0' :: 'b' :: ds => !ds.isEmpty && ds.all fun c => c = '0' || c = '1' || c = '_'
  | '0' :: 'x' :: ds =>
    !ds.isEmpty && ds.all fun c =>
      isDigitOrUnderscore c || ('a' ≤ c && c ≤ 'f') || ('A' ≤ c && c ≤ 'F')
  | '0' :: ds => ds.all fun c => ('0' ≤ c && c ≤ '7') || c = '_'
  | c :: ds =>
    c.isDigit && (ds.all isDigitOrUnderscore
      || isSexagesimalTail (ds.dropWhile isDigitOrUnderscore))
  | [] => false

/-- An exponent with its sign, or none. -/
def isSignedExponent (cs : List Char) : Bool :=
  match cs with
  | [] => true
  | e :: sign :: ds =>
    (e = 'e' || e = 'E') && (sign = '-' || sign = '+') && !ds.isEmpty && ds.all Char.isDigit
  | _ => false

/-- Decimal fractions, sexagesimal ones, and the names of special numbers. -/
def isFraction (cs : List Char) : Bool :=
  let body := (Number.splitSign cs).2
  let whole := body.takeWhile isDigitOrUnderscore
  let rest := body.dropWhile isDigitOrUnderscore
  let decimal := startsWithDigit whole && match rest with
    | '.' :: ds => isSignedExponent (ds.dropWhile isDigitOrUnderscore)
    | _ => false
  let sexagesimal := startsWithDigit whole && match rest.reverse.dropWhile isDigitOrUnderscore with
    | '.' :: before => isSexagesimalTail before.reverse
    | _ => false
  let bare := match cs with
    | '.' :: ds => startsWithDigit ds && isSignedExponent (ds.dropWhile isDigitOrUnderscore)
    | _ => false
  decimal || bare || sexagesimal
    || [".inf", ".Inf", ".INF"].contains (String.ofList body)
    || [".nan", ".NaN", ".NAN"].contains (String.ofList cs)

/-- The parts of a moment as they are written; without a time it is a date. -/
structure Stamp where
  date : Date
  /-- Whether month and day have two digits each. -/
  full : Bool
  time : Option (Nat × Nat × Nat × Nat × Option Int)

/-- Takes at least `least` and at most `most` digits. -/
def takeDigits (least most : Nat) (cs : List Char) : Option (Nat × List Char) :=
  let ds := (cs.take most).takeWhile Char.isDigit
  if ds.length < least then none
  else (Text.readNat? ds).map fun n => (n, cs.drop ds.length)

def takeChar (c : Char) : List Char → Option (List Char)
  | [] => none
  | d :: cs => if d = c then some cs else none

/-- The offset at the end of a moment: none, universal time, or hours and minutes. -/
def readOffset? (cs : List Char) : Option (Option Int) :=
  match cs.dropWhile fun c => c = ' ' || c = '\t' with
  | [] => if cs = [] then some none else none
  | ['Z'] => some (some 0)
  | sign :: cs => do
    if sign ≠ '+' && sign ≠ '-' then none
    let (hours, cs) ← takeDigits 1 2 cs
    let minutes ← match cs with
      | [] => some 0
      | ':' :: cs => do
        let (minutes, rest) ← takeDigits 2 2 cs
        if rest = [] then some minutes else none
      | _ => none
    let o : Int := hours * 60 + minutes
    return some (if sign = '-' then -o else o)

/-- The first six digits of a fraction of a second, as microseconds. -/
def microseconds (ds : List Char) : Nat :=
  let six := ds.take 6
  (Text.readNat? (six ++ List.replicate (6 - six.length) '0')).getD 0

def readTime? (cs : List Char) : Option (Nat × Nat × Nat × Nat × Option Int) := do
  let cs ← match cs with
    | 'T' :: cs | 't' :: cs => some cs
    | ' ' :: cs | '\t' :: cs => some (cs.dropWhile fun c => c = ' ' || c = '\t')
    | _ => none
  let (hour, cs) ← takeDigits 1 2 cs
  let (minute, cs) ← takeDigits 2 2 (← takeChar ':' cs)
  let (second, cs) ← takeDigits 2 2 (← takeChar ':' cs)
  let (fraction, cs) := match cs with
    | '.' :: cs => (cs.takeWhile Char.isDigit, cs.dropWhile Char.isDigit)
    | cs => ([], cs)
  return (hour, minute, second, microseconds fraction, ← readOffset? cs)

def readStamp? (cs : List Char) : Option Stamp := do
  let (year, cs) ← takeDigits 4 4 cs
  let afterYear ← takeChar '-' cs
  let (month, cs) ← takeDigits 1 2 afterYear
  let afterMonth ← takeChar '-' cs
  let (day, rest) ← takeDigits 1 2 afterMonth
  let full := afterYear.length = afterMonth.length + 3 && afterMonth.length = rest.length + 2
  let date : Date := { year, month, day }
  if rest = [] then return { date, full, time := none }
  else return { date, full, time := some (← readTime? rest) }

/-- Whether a plain scalar is read as a date or moment. A date alone needs all its digits. -/
def isTimestamp (cs : List Char) : Bool :=
  match readStamp? cs with
  | some s => s.full || s.time.isSome
  | none => false

/-- The kind of a plain scalar. -/
def Tag.ofPlain (text : String) : Tag :=
  let cs := dropFinalBreak text.toList
  let s := String.ofList cs
  if truthWords.contains s then .bool
  else if isFraction cs then .float
  else if isInteger cs then .int
  else if s = "<<" then .merge
  else if nullWords.contains s then .null
  else if isTimestamp cs then .timestamp
  else if s = "=" then .value
  else if keptSigns.contains s then .unknown
  else .text

/-! ## Values of scalars -/

def ofRefusal : Number.Refusal → Refusal := fun _ => .fault .outOfRange

/-- The sum of sexagesimal digits, the last one counting once. -/
def sexagesimalInt (digits : List Int) : Int := digits.foldl (fun sum d => 60 * sum + d) 0

/-- The sum of sexagesimal digits, the least one first, in units of `base`. Each unit must be a
number of its own. -/
def sexagesimalFloat (base : Nat) (sum : Binary64) : List Binary64 → Except Refusal Binary64
  | [] => .ok sum
  | d :: digits =>
    match Binary64.ofInt base with
    | .infinity _ => .error .overflow
    | unit => sexagesimalFloat (base * 60) (sum.add (d.mul unit)) digits

def readDigits (cs : List Char) : Except Refusal (List Int) :=
  (cs.splitOn ':').mapM fun part => (Number.readInt 10 part).mapError ofRefusal

/-- A text without underscores, and its sign, which must be there to look at. -/
def splitNumber (cs : List Char) : Except Refusal (Bool × List Char) :=
  match cs.filter (· ≠ '_') with
  | [] => .error (.fault .emptyText)
  | cs => .ok (Number.splitSign cs)

def readInteger (cs : List Char) : Except Refusal Int := do
  let (negative, body) ← splitNumber cs
  let n ← match body with
    | [] => throw (.fault .emptyText)
    | ['0'] => pure 0
    | '0' :: 'b' :: ds => (Number.readInt 2 ds).mapError ofRefusal
    | '0' :: 'x' :: ds => (Number.readInt 16 ds).mapError ofRefusal
    | '0' :: _ => (Number.readInt 8 body).mapError ofRefusal
    | _ =>
      if body.contains ':' then
        pure (sexagesimalInt (← readDigits body))
      else (Number.readInt 10 body).mapError ofRefusal
  return if negative then -n else n

def readFloatPart (cs : List Char) : Except Refusal Binary64 :=
  match Number.readBinary64? cs with
  | some x => .ok x
  | none => .error (.fault .outOfRange)

/-- Reads a number. What is no number gets a mark, unless it is written by its own name. -/
def readFloat (mark : Nat) (cs : List Char) : Except Refusal Binary64 := do
  let (negative, body) ← splitNumber (Text.lower cs)
  let x ←
    if body = ".inf".toList then pure (.infinity false)
    else if body = ".nan".toList then return .nan 0
    else if body.contains ':' then do
      sexagesimalFloat 1 (.zero false) (← (body.splitOn ':').mapM readFloatPart).reverse
    else readFloatPart body
  return (if negative then x.neg else x).withMark mark

def readBool (s : String) : Except Refusal Bool :=
  let word := String.ofList (Text.lower s.toList)
  if ["yes", "true", "on"].contains word then .ok true
  else if ["no", "false", "off"].contains word then .ok false
  else .error (.fault (.missing word))

def readTimestamp (cs : List Char) : Except Refusal Value :=
  match readStamp? (dropFinalBreak cs) with
  | none => .error (.fault .noSuchPart)
  | some s =>
    match s.time with
    | none => if s.date.isValid then .ok (.date s.date) else .error (.fault .outOfRange)
    | some (hour, minute, second, micro, offset) =>
      let m : Moment := { date := s.date, hour, minute, second, micro, offset }
      if m.isValid then .ok (.moment m) else .error (.fault .outOfRange)

/-- The value of a character in the alphabet of encoded octets. -/
def sextet? (c : Char) : Option Nat :=
  if 'A' ≤ c ∧ c ≤ 'Z' then some (c.toNat - 65)
  else if 'a' ≤ c ∧ c ≤ 'z' then some (c.toNat - 71)
  else if c.isDigit then some (c.toNat + 4)
  else if c = '+' then some 62
  else if c = '/' then some 63
  else none

/-- Reads encoded octets. `pending` holds the sextets of an unfinished group, `pads` counts the
padding signs since the last of them; other characters are passed over. -/
def readSextets : List Char → List Nat → Nat → Option (List UInt8)
  | [], pending, _ => if pending = [] then some [] else none
  | c :: cs, pending, pads =>
    if c = '=' then
      if 2 ≤ pending.length ∧ 4 ≤ pending.length + pads + 1 then some []
      else readSextets cs pending (if 2 ≤ pending.length then pads + 1 else pads)
    else
      match sextet? c, pending with
      | none, _ => readSextets cs pending pads
      | some d, [] => readSextets cs [d] 0
      | some d, [a] => (readSextets cs [a, d] 0).map (UInt8.ofNat (4 * a + d / 16) :: ·)
      | some d, [a, b] =>
        (readSextets cs [a, b, d] 0).map (UInt8.ofNat (16 * (b % 16) + d / 4) :: ·)
      | some d, _ :: _ :: e :: _ =>
        (readSextets cs [] 0).map (UInt8.ofNat (64 * (e % 4) + d) :: ·)

def readOctets (cs : List Char) : Except Refusal (List UInt8) :=
  if cs.any (0x80 ≤ ·.toNat) then .error .malformed
  else match readSextets cs [] 0 with
    | some octets => .ok octets
    | none => .error .malformed

/-- The value of a scalar of a kind. The mark is for what is no number. -/
def scalarValue (tag : Tag) (mark : Nat) (s : String) : Except Refusal Value :=
  match tag with
  | .null => .ok .null
  | .bool => (readBool s).map .bool
  | .int => (readInteger s.toList).map .int
  | .float => (readFloat mark s.toList).map .float
  | .text => .ok (.text s)
  | .bytes => (readOctets s.toList).map .bytes
  | .timestamp => readTimestamp s.toList
  | .merge | .value | .list | .map | .set | .pairs | .unknown => .error .malformed

end ApiClient.Yaml

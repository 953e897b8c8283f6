import ApiClient.Number.Binary64
import ApiClient.Text.Blank
import ApiClient.Text.Case
import ApiClient.Text.Digit

/-!
# Reading numbers

Integers in a base and decimal numbers, with blanks around them, a sign, digits of any script
and single underscores between digits. A decimal numeral for an integer has a greatest length.
The separators of the information code are no blanks here.
-/

namespace ApiClient.Number

/-- Why a numeral is refused. -/
inductive Refusal where
  | malformed
  | tooLong
  deriving DecidableEq

/-- The blanks that may stand around a numeral. -/
def isNumeralBlank (c : Char) : Bool := Text.isBlank c && !(0x1C ≤ c.toNat && c.toNat < 0x20)

def trimNumeral : List Char → List Char := Text.trimWhile isNumeralBlank

/-- A text without its sign, and whether the sign is negative. -/
def splitSign : List Char → Bool × List Char
  | '-' :: cs => (true, cs)
  | '+' :: cs => (false, cs)
  | cs => (false, cs)

/-- Removes underscores that stand between two digits. Others remain and spoil the numeral. -/
def dropUnderscores (isDigit : Char → Bool) : List Char → List Char
  | a :: '_' :: b :: cs =>
    if isDigit a && isDigit b then a :: dropUnderscores isDigit (b :: cs)
    else a :: '_' :: dropUnderscores isDigit (b :: cs)
  | a :: cs => a :: dropUnderscores isDigit cs
  | [] => []

/-- The value of a digit in a base up to sixteen. -/
def digitIn? (base : Nat) (c : Char) : Option Nat :=
  let value :=
    if 'a' ≤ c ∧ c ≤ 'z' then some (c.toNat - 87)
    else if 'A' ≤ c ∧ c ≤ 'Z' then some (c.toNat - 55)
    else Text.digitValue? c
  value.filter (· < base)

/-- Removes the mark of a base, with an underscore after it. -/
def dropBaseMark (base : Nat) (cs : List Char) : List Char :=
  let marks :=
    if base = 2 then ['b', 'B'] else if base = 8 then ['o', 'O']
    else if base = 16 then ['x', 'X'] else []
  match cs with
  | '0' :: m :: '_' :: cs' => if marks.contains m then cs' else cs
  | '0' :: m :: cs' => if marks.contains m then cs' else cs
  | _ => cs

/-- The integer that a numeral in the given base stands for. -/
def readInt (base : Nat) (cs : List Char) : Except Refusal Int :=
  let (negative, body) := splitSign (trimNumeral cs)
  let ds := dropUnderscores (fun c => (digitIn? base c).isSome) (dropBaseMark base body)
  if ds = [] then .error .malformed
  else if ds.any fun c => (digitIn? base c).isNone then .error .malformed
  else if base = 10 ∧ Text.maxNumeralDigits < ds.length then .error .tooLong
  else
    let n : Nat := ds.foldl (fun n c => base * n + (digitIn? base c).getD 0) 0
    .ok (if negative then -n else n)

/-- The exponent part of a decimal number, absent or complete. -/
def readExponent? : List Char → Option Int
  | [] => some 0
  | c :: cs =>
    if c = 'e' ∨ c = 'E' then
      let (negative, ds) := splitSign cs
      (Text.readNat? ds).map fun n => if negative then -n else n
    else none

/-- The magnitude of a decimal number: whole digits, a fraction and an exponent. -/
def readMagnitude? (negative : Bool) (cs : List Char) : Option Binary64 := do
  let isDigit c := (Text.digitValue? c).isSome
  let whole := cs.takeWhile isDigit
  let (fraction, rest) :=
    match cs.dropWhile isDigit with
    | '.' :: cs => (cs.takeWhile isDigit, cs.dropWhile isDigit)
    | cs => ([], cs)
  let digits ← Text.readNat? (whole ++ fraction)
  let e ← readExponent? rest
  return .ofDecimal negative digits (e - fraction.length)

/-- The number that a decimal text or the name of a special number stands for. -/
def readBinary64? (cs : List Char) : Option Binary64 :=
  let (negative, body) := splitSign (trimNumeral cs)
  match String.ofList (body.map Char.toLower) with
  | "inf" | "infinity" => some (.infinity negative)
  | "nan" => some (.nan 0)
  | _ => readMagnitude? negative (dropUnderscores (fun c => (Text.digitValue? c).isSome) body)

end ApiClient.Number

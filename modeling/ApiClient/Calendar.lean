/-!
# Dates and moments

Calendar dates of the years 1 to 9999 and moments on them, with their numeric text.
-/

namespace ApiClient

/-- The number in decimal, padded with zeros to a width. -/
def padded (width n : Nat) : String :=
  let ds := Nat.toDigits 10 n
  String.ofList (List.replicate (width - ds.length) '0' ++ ds)

structure Date where
  year : Nat
  month : Nat
  day : Nat
  deriving DecidableEq

/-- A time of day on a date. An offset counts minutes east of universal time; without one the
moment belongs to no zone. -/
structure Moment where
  date : Date
  hour : Nat
  minute : Nat
  second : Nat
  micro : Nat
  offset : Option Int
  deriving DecidableEq

def isLeapYear (y : Nat) : Bool := y % 4 = 0 && (y % 100 ≠ 0 || y % 400 = 0)

def daysInMonth (y m : Nat) : Nat :=
  if m = 2 then if isLeapYear y then 29 else 28
  else if m = 4 ∨ m = 6 ∨ m = 9 ∨ m = 11 then 30
  else 31

namespace Date

def isValid (d : Date) : Bool :=
  1 ≤ d.year && d.year ≤ 9999 && 1 ≤ d.month && d.month ≤ 12
    && 1 ≤ d.day && d.day ≤ daysInMonth d.year d.month

/-- Days from the first day of the year 1, which counts as one. -/
def ordinal (d : Date) : Nat :=
  let y := d.year - 1
  let before := (List.range (d.month - 1)).foldl (fun n m => n + daysInMonth d.year (m + 1)) 0
  365 * y + y / 4 - y / 100 + y / 400 + before + d.day

/-- Year, month and day, the greatest first, with hyphens. -/
def text (d : Date) : String :=
  padded 4 d.year ++ "-" ++ padded 2 d.month ++ "-" ++ padded 2 d.day

end Date

namespace Moment

def isValid (m : Moment) : Bool :=
  m.date.isValid && m.hour < 24 && m.minute < 60 && m.second < 60 && m.micro < 1000000
    && m.offset.all fun o => o.natAbs < 1440

/-- Microseconds from a fixed origin, in universal time where the moment has a zone. -/
def instant (m : Moment) : Int :=
  let minutes : Int := ((m.date.ordinal * 24 + m.hour) * 60 + m.minute : Nat)
  ((minutes - m.offset.getD 0) * 60 + m.second) * 1000000 + m.micro

/-- Moments are the same when both or neither have a zone and the instants agree. -/
def same (a b : Moment) : Bool :=
  a.offset.isSome = b.offset.isSome && a.instant = b.instant

def offsetText (o : Int) : String :=
  (if o < 0 then "-" else "+") ++ padded 2 (o.natAbs / 60) ++ ":" ++ padded 2 (o.natAbs % 60)

/-- Date and time with `separator` between them; a fraction of six digits unless it is zero. -/
def text (separator : String) (m : Moment) : String :=
  m.date.text ++ separator ++ padded 2 m.hour ++ ":" ++ padded 2 m.minute ++ ":"
    ++ padded 2 m.second ++ (if m.micro = 0 then "" else "." ++ padded 6 m.micro)
    ++ (m.offset.map offsetText).getD ""

end Moment

end ApiClient

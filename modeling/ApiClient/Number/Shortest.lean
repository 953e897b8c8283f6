import ApiClient.Number.Binary64

/-!
# Shortest decimal form

The fewest decimal digits that read back as the same number, and of these the nearest to it, the
even one of two. Numbers from `1e-4` up to `1e16` are written with a point, the others with an
exponent of at least two digits.
-/

namespace ApiClient.Binary64

/-- The fraction `value / unit` between its neighbours: whatever lies strictly between `low` and
`high`, in units too, reads back as the number, and so do both ends when `closed` holds. -/
structure Interval where
  low : Nat
  value : Nat
  high : Nat
  unit : Nat
  closed : Bool

/-- The interval that rounds to `m * 2 ^ e`. Below a power of two it reaches half as far. -/
def interval (m : Nat) (e : Int) : Interval :=
  let up := Nat.pow 2 e.toNat
  { low := (4 * m - if m = Nat.pow 2 52 ∧ -1074 < e then 1 else 2) * up
    value := 4 * m * up
    high := (4 * m + 2) * up
    unit := 4 * Nat.pow 2 (-e).toNat
    closed := m % 2 = 0 }

/-- Both sides of a comparison between `a * 10 ^ s` and a multiple of `1 / unit`. -/
def Interval.ten (i : Interval) (s : Int) (a b : Nat) : Nat × Nat :=
  if 0 ≤ s then (a * Nat.pow 10 s.toNat * i.unit, b) else (a * i.unit, b * Nat.pow 10 (-s).toNat)

def Interval.contains (i : Interval) (s : Int) (a : Nat) : Bool :=
  let (l, low) := i.ten s a i.low
  let (h, high) := i.ten s a i.high
  if i.closed then low ≤ l && h ≤ high else low < l && h < high

/-- The least `p`, from a first guess on, with the value below `10 ^ p`. -/
def Interval.magnitude (i : Interval) : Nat → Int → Int
  | 0, p => p
  | fuel + 1, p =>
    let (a, v) := i.ten p 1 i.value
    if v < a then p else i.magnitude fuel (p + 1)

/-- The neighbours of the value on the grid of step `10 ^ s` that read back, the nearer first. -/
def Interval.candidates (i : Interval) (s : Int) : List Nat :=
  let (one, v) := i.ten s 1 i.value
  let down := v / one
  let twice := 2 * (v % one)
  let nearFirst :=
    if twice < one ∨ (twice = one ∧ down % 2 = 0) then [down, down + 1] else [down + 1, down]
  nearFirst.filter (i.contains s)

/-- Tries ever finer grids below `10 ^ p`. -/
def Interval.search (i : Interval) (p : Int) : Nat → Nat → Nat × Int
  | 0, _ => (0, 0)
  | fuel + 1, n =>
    match i.candidates (p - n) with
    | a :: _ => (a, p - n)
    | [] => i.search p fuel (n + 1)

/-- Digits and exponent of ten of the shortest decimal form of `m * 2 ^ e`. -/
def shortest (m : Nat) (e : Int) : Nat × Int :=
  let i := interval m e
  let guess : Int := (((i.value.log2 : Int) - (i.unit.log2 : Int)) * 30103).fdiv 100000 - 1
  i.search (i.magnitude 5 guess) 17 1

def dropTrailingZeros (cs : List Char) : List Char := (cs.reverse.dropWhile (· = '0')).reverse

/-- Digits `ds` with the point after the first `point` of them. -/
def positional (ds : List Char) (point : Int) : List Char :=
  if point ≤ 0 then
    ['0', '.'] ++ List.replicate (-point).toNat '0' ++ ds
  else
    let whole := ds.take point.toNat
    let padded := whole ++ List.replicate (point.toNat - whole.length) '0'
    let rest := ds.drop point.toNat
    padded ++ '.' :: if rest = [] then ['0'] else rest

/-- Digits `ds` with the point after the first and an exponent. -/
def exponential (ds : List Char) (point : Int) : List Char :=
  let e := point - 1
  let size := Nat.toDigits 10 e.natAbs
  let padded := List.replicate (2 - size.length) '0' ++ size
  ds.take 1 ++ (if ds.length ≤ 1 then [] else '.' :: ds.drop 1)
    ++ 'e' :: (if e < 0 then '-' else '+') :: padded

/-- The digits and the place of the point, in the notation that the size calls for. -/
def notate (ds : List Char) (point : Int) : List Char :=
  if -4 < point ∧ point ≤ 16 then positional ds point else exponential ds point

def text : Binary64 → String
  | nan _ => "nan"
  | infinity s => if s then "-inf" else "inf"
  | finite s m e =>
    let unsigned :=
      if m = 0 then ['0', '.', '0']
      else
        let (digits, s) := shortest m e
        let all := Nat.toDigits 10 digits
        notate (dropTrailingZeros all) (s + all.length)
    String.ofList (if s then '-' :: unsigned else unsigned)

end ApiClient.Binary64

/-!
# Binary floating-point numbers

Numbers with a significand of 53 bits and an exponent of eleven. All arithmetic is exact on
natural numbers and rounds once, to the nearest number and to the even one of two.
-/

namespace ApiClient

/-- `finite s m e` is the number `m * 2 ^ e`, negated when `s` holds. Rounding yields it with
`m < 2 ^ 53`, `-1074 ≤ e`, and `2 ^ 52 ≤ m` unless `e` is least. What is no number has a mark, by
which two of its kind are told apart. -/
inductive Binary64 where
  | nan (mark : Nat)
  | infinity (negative : Bool)
  | finite (negative : Bool) (significand : Nat) (exponent : Int)
  deriving DecidableEq

namespace Binary64

def zero (negative : Bool) : Binary64 := finite negative 0 (-1074)

/-- The integer nearest to a fraction, the even one of two. -/
def nearest (num den : Nat) : Nat :=
  let q := num / den
  let twice := 2 * (num % den)
  if twice < den then q
  else if den < twice then q + 1
  else if q % 2 = 0 then q else q + 1

/-- The fraction `num / (den * 2 ^ e)` as a numerator and a denominator. -/
def scaled (num den : Nat) (e : Int) : Nat × Nat :=
  if 0 ≤ e then (num, den * Nat.pow 2 e.toNat) else (num * Nat.pow 2 (-e).toNat, den)

/-- The exponent at which the fraction has a significand of 53 bits, but never less than the
least exponent. -/
def exponentFor (num den : Nat) : Int :=
  let guess : Int := (num.log2 : Int) - (den.log2 : Int) - 52
  let (n, d) := scaled num den guess
  max (-1074) (if n < d * Nat.pow 2 52 then guess - 1 else guess)

/-- The number nearest to the fraction `num / den`. -/
def round (negative : Bool) (num den : Nat) : Binary64 :=
  if num = 0 then zero negative
  else
    let e := exponentFor num den
    let (n, d) := scaled num den e
    let m := nearest n d
    let (m, e) := if m = Nat.pow 2 53 then (Nat.pow 2 52, e + 1) else (m, e)
    if 971 < e then infinity negative else finite negative m e

/-- The number nearest to `m * 2 ^ e`. -/
def roundScaled (negative : Bool) (m : Nat) (e : Int) : Binary64 :=
  if 0 ≤ e then round negative (m * Nat.pow 2 e.toNat) 1
  else round negative m (Nat.pow 2 (-e).toNat)

def ofInt (n : Int) : Binary64 := round (n < 0) n.natAbs 1

/-- The number nearest to `digits * 10 ^ e`. -/
def ofDecimal (negative : Bool) (digits : Nat) (e : Int) : Binary64 :=
  let size : Int := (Nat.toDigits 10 digits).length
  if digits = 0 then zero negative
  else if 310 < e + size then infinity negative
  else if e + size < -330 then zero negative
  else if 0 ≤ e then round negative (digits * Nat.pow 10 e.toNat) 1
  else round negative digits (Nat.pow 10 (-e).toNat)

def negative : Binary64 → Bool
  | nan _ => false
  | infinity s | finite s _ _ => s

def neg : Binary64 → Binary64
  | nan mark => nan mark
  | infinity s => infinity (!s)
  | finite s m e => finite (!s) m e

def isZero : Binary64 → Bool
  | finite _ m _ => m = 0
  | _ => false

/-- Puts a mark on what is no number. -/
def withMark (mark : Nat) : Binary64 → Binary64
  | nan _ => nan mark
  | x => x

def mul : Binary64 → Binary64 → Binary64
  | nan mark, _ | _, nan mark => nan mark
  | infinity s, y => if y.isZero then nan 0 else infinity (s != y.negative)
  | x, infinity t => if x.isZero then nan 0 else infinity (x.negative != t)
  | finite s m e, finite t n f => roundScaled (s != t) (m * n) (e + f)

/-- A finite number as a signed count of units `2 ^ e`, for an `e` no greater than its own. -/
def unitsOf (negative : Bool) (m : Nat) (own e : Int) : Int :=
  let n : Int := (m * Nat.pow 2 (own - e).toNat : Nat)
  if negative then -n else n

def add : Binary64 → Binary64 → Binary64
  | nan mark, _ | _, nan mark => nan mark
  | infinity s, infinity t => if s = t then infinity s else nan 0
  | infinity s, _ => infinity s
  | _, infinity t => infinity t
  | finite s m e, finite t n f =>
    let least := min e f
    let sum := unitsOf s m e least + unitsOf t n f least
    if sum = 0 then zero (s && t) else roundScaled (sum < 0) sum.natAbs least

/-- Equality as numbers: the zeros are equal. What is no number is the same as itself alone. -/
def same : Binary64 → Binary64 → Bool
  | nan m, nan n => m = n
  | infinity s, infinity t => s = t
  | finite s m e, finite t n f =>
    let least := min e f
    unitsOf s m e least = unitsOf t n f least
  | _, _ => false

/-- Equality with an integer, without rounding it. -/
def sameInt : Binary64 → Int → Bool
  | finite s m e, n =>
    let least := min e 0
    unitsOf s m e least = n * (Nat.pow 2 (-least).toNat : Nat)
  | _, _ => false

end Binary64

end ApiClient

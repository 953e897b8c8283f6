import ApiClient.Json.Reader
import ApiClient.Text.Utf8

/-!
# Encodings of the interchange notation

A text that arrives as octets says how it is encoded by a mark at its start, or else by where the
zero octets stand among its first four.
-/

namespace ApiClient.Json

/-- The width of a unit in octets and, for wide units, whether the greatest octet comes first. -/
inductive Encoding where
  | narrow
  | wide (bigEndian : Bool)
  | full (bigEndian : Bool)
  deriving DecidableEq

/-- The encoding of a text, and the length of the mark that tells it. -/
def Encoding.detect : List UInt8 → Encoding × Nat
  | 0x00 :: 0x00 :: 0xFE :: 0xFF :: _ => (.full true, 4)
  | 0xFF :: 0xFE :: 0x00 :: 0x00 :: _ => (.full false, 4)
  | 0xFE :: 0xFF :: _ => (.wide true, 2)
  | 0xFF :: 0xFE :: _ => (.wide false, 2)
  | 0xEF :: 0xBB :: 0xBF :: _ => (.narrow, 3)
  | a :: b :: c :: d :: _ =>
    if a = 0 then (if b = 0 then .full true else .wide true, 0)
    else if b = 0 then (if c = 0 ∧ d = 0 then .full false else .wide false, 0)
    else (.narrow, 0)
  | [a, b] =>
    if a = 0 then (.wide true, 0) else if b = 0 then (.wide false, 0) else (.narrow, 0)
  | _ => (.narrow, 0)

/-- Groups octets into units of two, and none when one is left over. -/
def pairs? (bigEndian : Bool) : List UInt8 → Option (List Nat)
  | [] => some []
  | a :: b :: rest =>
    (pairs? bigEndian rest).map
      ((if bigEndian then 256 * a.toNat + b.toNat else 256 * b.toNat + a.toNat) :: ·)
  | [_] => none

/-- Joins the two halves of every pair. -/
def joinPairs : List Nat → List Nat
  | high :: low :: units =>
    if Text.isHighHalf high && Text.isLowHalf low then
      Text.joinHalves high low :: joinPairs units
    else high :: joinPairs (low :: units)
  | units => units

/-- Groups octets into units of four, and none when some are left over or a unit is too great. -/
def quads? (bigEndian : Bool) : List UInt8 → Option (List Nat)
  | [] => some []
  | a :: b :: c :: d :: rest =>
    let of (a b c d : UInt8) :=
      16777216 * a.toNat + 65536 * b.toNat + 256 * c.toNat + d.toNat
    let n := if bigEndian then of a b c d else of d c b a
    if n < 0x110000 then (quads? bigEndian rest).map (n :: ·) else none
  | _ => none

/-- The points that octets stand for in their own encoding. -/
def decode? (octets : List UInt8) : Option (List Nat) :=
  let (encoding, mark) := Encoding.detect octets
  let body := octets.drop mark
  match encoding with
  | .narrow => Text.decodePoints? body
  | .wide bigEndian => (pairs? bigEndian body).map joinPairs
  | .full bigEndian => quads? bigEndian body

/-- Why octets are refused. -/
inductive OctetRefusal where
  | undecodable
  | unreadable (why : Refusal)
  deriving DecidableEq

def readOctets (octets : List UInt8) : Except OctetRefusal Value :=
  match decode? octets with
  | none => .error .undecodable
  | some ns => (readChars (Text.ofPoints ns)).mapError .unreadable

end ApiClient.Json

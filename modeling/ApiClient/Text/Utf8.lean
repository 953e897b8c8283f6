import ApiClient.Text.Point

/-!
# Eight-bit transformation format

Characters as sequences of one to four octets. Reading refuses stray and missing continuation
octets, overlong forms and numbers beyond the last code point. Halves of surrogate pairs have the
form of three octets, but only some readers let them pass.
-/

namespace ApiClient.Text

def encodeUtf8 (cs : List Char) : List UInt8 := cs.flatMap String.utf8EncodeChar

/-- How many octets the characters of a text take. -/
def octetCount (cs : List Char) : Nat := (encodeUtf8 (chars cs)).length

/-- The octets of a text, unless half of a pair stands alone in it. -/
def textOctets? (cs : List Char) : Option (List UInt8) := (chars? cs).map encodeUtf8

/-- The low six bits of a continuation octet. -/
def continuation? (b : UInt8) : Option Nat :=
  if 0x80 ≤ b ∧ b < 0xC0 then some (b.toNat - 0x80) else none

/-- A number, unless it is beyond the last code point or below `least`. -/
def pointAtLeast? (least n : Nat) : Option Nat :=
  if least ≤ n ∧ n < 0x110000 then some n else none

/-- The points that octets stand for, halves of pairs among them. -/
def decodePoints? : List UInt8 → Option (List Nat)
  | [] => some []
  | a :: rest =>
    if a < 0x80 then (decodePoints? rest).map (a.toNat :: ·)
    else if a < 0xC0 then none
    else if a < 0xE0 then
      match rest with
      | b :: rest => do
        let n ← pointAtLeast? 0x80 (64 * (a.toNat - 0xC0) + (← continuation? b))
        return n :: (← decodePoints? rest)
      | _ => none
    else if a < 0xF0 then
      match rest with
      | b :: c :: rest => do
        let n := 4096 * (a.toNat - 0xE0) + 64 * (← continuation? b) + (← continuation? c)
        return (← pointAtLeast? 0x800 n) :: (← decodePoints? rest)
      | _ => none
    else
      match rest with
      | b :: c :: d :: rest => do
        let n := 262144 * (a.toNat - 0xF0) + 4096 * (← continuation? b)
          + 64 * (← continuation? c) + (← continuation? d)
        return (← pointAtLeast? 0x10000 n) :: (← decodePoints? rest)
      | _ => none

/-- The characters that octets stand for. -/
def decodeUtf8? (octets : List UInt8) : Option (List Char) := do
  (← decodePoints? octets).mapM char?

end ApiClient.Text

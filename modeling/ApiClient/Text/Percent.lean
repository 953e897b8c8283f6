import ApiClient.Text.Utf8

/-!
# Percent encoding

Text inside an address: letters, digits and a few marks stand for themselves, every other octet
of the text is written as a percent sign and two hexadecimal digits.
-/

namespace ApiClient.Text

/-- The marks that a path segment or a query keeps: the unreserved ones, and those that a form's
component encoding leaves alone. -/
def unescapedMarks : List Char := ['_', '.', '-', '~', '!', '*', '\'', '(', ')']

def isUnescaped (c : Char) : Bool := c.isAlphanum || unescapedMarks.contains c

def upperHexDigit (n : Nat) : Char := if n < 10 then Char.ofNat (48 + n) else Char.ofNat (55 + n)

def percentOctet (b : UInt8) : List Char :=
  ['%', upperHexDigit (b.toNat / 16), upperHexDigit (b.toNat % 16)]

def percentChar (c : Char) : List Char :=
  if isUnescaped c then [c] else (String.utf8EncodeChar c).flatMap percentOctet

def percentEncode (cs : List Char) : List Char := cs.flatMap percentChar

def hexValue? (c : Char) : Option Nat :=
  if '0' ≤ c ∧ c ≤ '9' then some (c.toNat - 48)
  else if 'A' ≤ c ∧ c ≤ 'F' then some (c.toNat - 55)
  else if 'a' ≤ c ∧ c ≤ 'f' then some (c.toNat - 87)
  else none

/-- The octets that an encoded text stands for. A percent sign without two digits stands for
itself. -/
def percentOctets : List Char → List UInt8
  | '%' :: a :: b :: cs =>
    match hexValue? a, hexValue? b with
    | some h, some l => UInt8.ofNat (16 * h + l) :: percentOctets cs
    | _, _ => 37 :: percentOctets (a :: b :: cs)
  | c :: cs => String.utf8EncodeChar c ++ percentOctets cs
  | [] => []

/-- Reads an encoded text back. -/
def percentDecode? (cs : List Char) : Option (List Char) := decodeUtf8? (percentOctets cs)

end ApiClient.Text

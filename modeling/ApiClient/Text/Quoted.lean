import ApiClient.Text.Edit
import ApiClient.Text.Point
import ApiClient.Text.Printable

/-!
# Quoted literals

String and octet literals as the generated module spells them. The single quote encloses them
unless it occurs in the text and the double quote does not.
-/

namespace ApiClient.Text

def lowerHexDigit (n : Nat) : Char := if n < 10 then Char.ofNat (48 + n) else Char.ofNat (87 + n)

/-- The last `width` hexadecimal digits of a number. -/
def hexDigits : Nat → Nat → List Char
  | 0, _ => []
  | width + 1, n => hexDigits width (n / 16) ++ [lowerHexDigit (n % 16)]

/-- The quote that encloses a text. -/
def quoteFor (cs : List Char) : Char :=
  if cs.contains '\'' && !cs.contains '"' then '"' else '\''

/-- The escape of a number by the shortest of three widths. -/
def escapeNumber (n : Nat) : List Char :=
  if n < 0x100 then '\\' :: 'x' :: hexDigits 2 n
  else if n < 0x10000 then '\\' :: 'u' :: hexDigits 4 n
  else '\\' :: 'U' :: hexDigits 8 n

/-- A character inside a literal enclosed by `quote`. -/
def escapeChar (quote c : Char) : List Char :=
  if c = quote ∨ c = '\\' then ['\\', c]
  else if c = '\n' then ['\\', 'n']
  else if c = '\r' then ['\\', 'r']
  else if c = '\t' then ['\\', 't']
  else if isPrintable c then [c]
  else escapeNumber c.toNat

/-- A point inside a literal enclosed by `quote`. -/
def escapePoint (quote : Char) (n : Nat) : List Char :=
  match char? n with
  | some c => escapeChar quote c
  | none => escapeNumber n

def quoted (cs : List Char) : List Char :=
  let quote := quoteFor cs
  quote :: (points cs).flatMap (escapePoint quote) ++ [quote]

/-- An octet inside a literal enclosed by `quote`. -/
def escapeOctet (quote : Char) (b : UInt8) : List Char :=
  if b < 0x7F then escapeChar quote (Char.ofNat b.toNat)
  else '\\' :: 'x' :: hexDigits 2 b.toNat

def quotedOctets (bs : List UInt8) : List Char :=
  let quote := quoteFor (bs.map fun b => Char.ofNat b.toNat)
  'b' :: quote :: bs.flatMap (escapeOctet quote) ++ [quote]

end ApiClient.Text

namespace ApiClient

/-- The string as a literal of the generated module. -/
def quote (s : String) : String := mapChars Text.quoted s

end ApiClient

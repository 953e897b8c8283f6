/-!
# Halves of surrogate pairs

Two halves make up one character beyond the basic plane. A half alone is no character, yet some
notations can write it.
-/

namespace ApiClient.Text

def isHighHalf (n : Nat) : Bool := 0xD800 ≤ n && n < 0xDC00

def isLowHalf (n : Nat) : Bool := 0xDC00 ≤ n && n < 0xE000

def isHalf (n : Nat) : Bool := isHighHalf n || isLowHalf n

/-- The number of the character that two halves make up. -/
def joinHalves (high low : Nat) : Nat := 0x10000 + 0x400 * (high - 0xD800) + (low - 0xDC00)

end ApiClient.Text

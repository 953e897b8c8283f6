import ApiClient.Text.CharSet

/-!
# Blanks

The characters that separate words, with trimming and splitting at them. A text is a list of
characters here and in the modules beside this one.
-/

namespace ApiClient.Text

/-- Spaces, tabs, line and paragraph ends, and the separators of the information code. -/
def blanks : CharSet where
  ranges := [
    (0x9, 0xD), (0x1C, 0x20), (0x85, 0x85), (0xA0, 0xA0), (0x1680, 0x1680), (0x2000, 0x200A),
    (0x2028, 0x2029), (0x202F, 0x202F), (0x205F, 0x205F), (0x3000, 0x3000)]

def isBlank (c : Char) : Bool := blanks.contains c

/-- Drops the longest end all of whose characters satisfy `p`. -/
def trimEndWhile (p : Char → Bool) (cs : List Char) : List Char :=
  (cs.reverse.dropWhile p).reverse

/-- Drops the characters that satisfy `p` at both ends. -/
def trimWhile (p : Char → Bool) (cs : List Char) : List Char :=
  trimEndWhile p (cs.dropWhile p)

def trim : List Char → List Char := trimWhile isBlank

/-- The maximal runs without a blank, in order. -/
def words (cs : List Char) : List (List Char) :=
  (cs.splitOnP isBlank).filter (!·.isEmpty)

end ApiClient.Text

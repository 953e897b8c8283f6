/-!
# Searching, replacing and joining

Occurrences of a text in another, their replacement from left to right, and joining with a
separator.
-/

namespace ApiClient.Text

/-- Replaces the occurrences of `old`, after the first `skip` characters, which belong to an
occurrence already replaced. -/
def replaceFrom (old new : List Char) : Nat → List Char → List Char
  | _, [] => []
  | skip + 1, _ :: cs => replaceFrom old new skip cs
  | 0, c :: cs =>
    if old.isPrefixOf (c :: cs) then new ++ replaceFrom old new (old.length - 1) cs
    else c :: replaceFrom old new 0 cs

/-- Replaces every occurrence of the nonempty text `old` by `new`. -/
def replaceAll (old new cs : List Char) : List Char := replaceFrom old new 0 cs

/-- Whether a text occurs in another. -/
def occurs (part : List Char) : List Char → Bool
  | [] => part.isEmpty
  | c :: cs => part.isPrefixOf (c :: cs) || occurs part cs

def join (separator : List Char) (parts : List (List Char)) : List Char :=
  separator.intercalate parts

end ApiClient.Text

namespace ApiClient

/-- Applies a function on lists of characters to a string. -/
def mapChars (f : List Char → List Char) (s : String) : String := String.ofList (f s.toList)

end ApiClient

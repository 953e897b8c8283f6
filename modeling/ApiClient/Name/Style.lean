import ApiClient.Text.Blank
import ApiClient.Text.Edit
import ApiClient.Text.Point

/-!
# Styles of identifiers

A style turns any text into an identifier. Word characters are the letters and digits of the
basic alphabet and the underscore; an identifier holds nothing else and does not open with a
digit.
-/

namespace ApiClient.Name

def isWord (c : Char) : Bool := c.isAlphanum || c = '_'

/-- Capitalizes the first character of every run of word characters and drops the characters
between the runs. `inWord` says whether a word character stands right before. -/
def titled (inWord : Bool) : List Char → List Char
  | [] => []
  | c :: cs =>
    if isWord c then (if inWord then c else c.toUpper) :: titled true cs else titled false cs

/-- Puts an underscore before a digit at the start. -/
def guardDigit : List Char → List Char
  | [] => []
  | c :: cs => if c.isDigit then '_' :: c :: cs else c :: cs

/-- Runs of word characters, each with a capital, written without what separates them. -/
def tokenChars (cs : List Char) : List Char :=
  match titled false cs with
  | [] => "Unnamed".toList
  | token => guardDigit token

/-- A token whose first letter is small. -/
def camelChars (cs : List Char) : List Char :=
  match tokenChars cs with
  | [] => []
  | c :: cs => c.toLower :: cs

/-- The text with an underscore for every other character, less the underscores at its ends. The
mark of a reserved character is no character of its own. -/
def plainChars (cs : List Char) : List Char :=
  let unmarked := cs.filter (· ≠ Text.mark)
  match Text.trimWhile (· = '_') (unmarked.map fun c => if isWord c then c else '_') with
  | [] => "arg".toList
  | ident => guardDigit ident

/-- What follows the first slash of a media type, parameters and outer blanks aside. -/
def subtypeChars (cs : List Char) : List Char :=
  let base := Text.trim (cs.takeWhile (· ≠ ';'))
  match base.dropWhile (· ≠ '/') with
  | [] => base
  | _ :: subtype => subtype

/-- The style of classes and aliases: `pet-store` becomes `PetStore`. -/
def token : String → String := mapChars tokenChars

/-- The style of methods: `get pet` becomes `getPet`. -/
def camel : String → String := mapChars camelChars

/-- The style of arguments: `pet-id` becomes `pet_id`. -/
def plain : String → String := mapChars plainChars

/-- The token of a media type's subtype: `application/octet-stream` gives `OctetStream`. -/
def mediaTypeSuffix : String → String := mapChars fun cs => tokenChars (subtypeChars cs)

end ApiClient.Name

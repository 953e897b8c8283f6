import ApiClient.Http.Request
import ApiClient.Proofs.Text.Percent
import ApiClient.Proofs.Text.Replacing
import Mathlib.Data.List.Dedup

/-!
# Path templates

A path template is made of literal pieces and of placeholders, each a name in braces. Values are put
into it one name after the other, each by a search for the placeholder in what the earlier ones left
behind. An inserted text has no braces, so it neither makes a placeholder nor breaks one, and the
order of the names does not matter.
-/

namespace ApiClient.Http

open Text

/-! ## Templates -/

/-- A text without braces. -/
abbrev Unbraced := { s : String // '\x7b' ∉ s.toList ∧ '\x7d' ∉ s.toList }

inductive TemplatePiece where
  | literal (text : Unbraced)
  | placeholder (name : Unbraced)

abbrev PathTemplate := List TemplatePiece

/-- A placeholder as it stands in a path. -/
def mark (name : Unbraced) : List Char := '\x7b' :: name.1.toList ++ ['\x7d']

/-- The text that stands for a value inside an address. -/
def insertedText (v : Value) : List Char := percentEncode (chars (parameterText v).toList)

namespace TemplatePiece

def name? : TemplatePiece → Option Unbraced
  | literal _ => none
  | placeholder name => some name

def text : TemplatePiece → List Char
  | literal text => text.1.toList
  | placeholder name => mark name

/-- The piece with a value for each name. -/
def filled (values : Unbraced → Value) : TemplatePiece → List Char
  | literal text => text.1.toList
  | placeholder name => insertedText (values name)

end TemplatePiece

namespace PathTemplate

def names (template : PathTemplate) : List Unbraced := template.filterMap (·.name?)

def text (template : PathTemplate) : String := String.ofList (template.flatMap (·.text))

/-- The template with every placeholder replaced by the text for the value of its name. -/
def filled (template : PathTemplate) (values : Unbraced → Value) : String :=
  String.ofList (template.flatMap (·.filled values))

end PathTemplate

/-! ## Inserted texts -/

namespace PathTemplate

end PathTemplate

/-- An inserted text is safe inside a path, and the text of the value is read back from it. Only a
text of characters has octets to be read back from. -/
structure Carries (inserted : List Char) (v : Value) : Prop where
  not_mem : ∀ c ∈ ['/', '?', '#', '\x7b', '\x7d'], c ∉ inserted
  decoded : ∀ cs, chars? (parameterText v).toList = some cs → percentDecode? inserted = some cs

end ApiClient.Http

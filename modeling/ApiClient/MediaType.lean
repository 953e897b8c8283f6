import ApiClient.Name.Style
import ApiClient.Text.Case

/-!
# Media types

The families of media types that decide how a body is written and read. Parameters after a
semicolon, outer blanks and letter case do not matter.
-/

namespace ApiClient.MediaType

/-- Type and subtype in small letters. -/
def essence (mediaType : String) : List Char :=
  Text.lower (Text.trim (mediaType.toList.takeWhile (· ≠ ';')))

/-- The interchange notation itself, or a format built on it. -/
def isJson (mediaType : String) : Bool :=
  let e := essence mediaType
  e = "application/json".toList || e = "text/json".toList || "+json".toList.isSuffixOf e

/-- A form, in one part or in several. -/
def isForm (mediaType : String) : Bool :=
  let e := essence mediaType
  "multipart/".toList.isPrefixOf e || e = "application/x-www-form-urlencoded".toList

end ApiClient.MediaType

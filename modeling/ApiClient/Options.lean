import ApiClient.Text.Blank
import ApiClient.Text.Case
import ApiClient.Value

/-!
# Options of a generation

What the environment and the command line may set. A media type or a tag is a text as a rule.
-/

namespace ApiClient

structure Options where
  /-- The media type of operations that declare none. -/
  defaultContentType : Value := "application/json"
  /-- The tag of operations without one. -/
  ungroupedTag : Value := "default"
  /-- Whether the support code is pasted into the module. -/
  inlineSupport : Bool := false

namespace Options

/-- The words that turn a switch on. -/
def isOn (s : String) : Bool :=
  ["1", "true", "yes", "on"].contains (String.ofList (Text.lower (Text.trim s.toList)))

/-- The options that environment variables set. -/
def ofEnvironment (environment : List (String × String)) : Options where
  defaultContentType :=
    (environment.lookup "CLIENTGEN_DEFAULT_CONTENT_TYPE").getD "application/json"
  ungroupedTag := (environment.lookup "CLIENTGEN_UNGROUPED_TAG").getD "default"
  inlineSupport := isOn ((environment.lookup "CLIENTGEN_INLINE_RUNTIME").getD "")

end Options

end ApiClient

import ApiClient.Yaml.Assembly

/-!
# Documents

The value of the one document that a text holds.
-/

namespace ApiClient.Yaml

/-- The characters that a text may hold. -/
def isAllowed (c : Char) : Bool :=
  let n := c.toNat
  n = 9 || n = 10 || n = 13 || (0x20 ≤ n && n ≤ 0x7E) || n = 0x85 || (0xA0 ≤ n && n ≤ 0xFFFD)
    || 0x10000 ≤ n

/-- The value of the document that a text holds; an empty text holds null. -/
def read (s : String) : Except Refusal Value := do
  let cs := s.toList
  if !cs.all isAllowed then throw .malformed
  match ← Composition.ofTokens? (tokens cs) with
  | none => return .null
  | some c => c.value

end ApiClient.Yaml

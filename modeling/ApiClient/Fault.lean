/-!
# Faults

Why a description cannot be worked on. Most oddities of a description are tolerated; a fault
arises where a value of one kind stands in a place that only another kind can fill.
-/

namespace ApiClient

inductive Fault where
  /-- The value's kind has no such part or operation. -/
  | noSuchPart
  /-- The operation exists but does not accept a value of this kind. -/
  | unsuitable
  /-- The kind is right, the value is out of range. -/
  | outOfRange
  /-- A text that must not be empty is empty. -/
  | emptyText
  /-- A value that contains itself has to be followed to its end. -/
  | endless
  /-- A map has no entry under the key. -/
  | missing (key : String)
  /-- A chain of named schemas, in the order they were followed, returns to itself. -/
  | recursiveSchema (chain : List String)
  deriving DecidableEq

namespace Fault

/-- The account of a recursive chain of schemas. -/
def recursionText (chain : List String) : String :=
  "unsupported recursive schema: " ++ " -> ".intercalate chain

end Fault

end ApiClient

import ApiClient.Name.Reserved
import ApiClient.Name.Style

/-!
# Name registries

A registry hands out one identifier for each raw name of a scope. An identifier is the styled
name, with the least number appended that makes it free.
-/

namespace ApiClient.Name

/-- `taken` holds every identifier that is no longer free, `assigned` the raw names with their
identifiers, the latest first. -/
structure Registry where
  style : String → String
  taken : List String
  assigned : List (String × String)

/-- The `k`-th identifier to try for a candidate. -/
def suffixed (candidate : String) (k : Nat) : String :=
  if k = 0 then candidate else candidate ++ "_" ++ k.repr

/-- The least `k` whose identifier is free. One of the first `taken.length + 1` is. -/
def firstFree (taken : List String) (candidate : String) : Nat :=
  ((List.range (taken.length + 1)).find? fun k => !taken.contains (suffixed candidate k)).getD 0

namespace Registry

def new (reserved : List String) (style : String → String) : Registry where
  style
  taken := reserved
  assigned := []

/-- The scope of the generated module. -/
def forModule : Registry := new reserved token

/-- The scope of the methods of one class. -/
def forMethods : Registry := new reservedForMethods camel

/-- The scope of the arguments of one method. -/
def forArguments : Registry := new reservedForArguments plain

def identifier? (r : Registry) (raw : String) : Option String := r.assigned.lookup raw

def contains (r : Registry) (raw : String) : Bool := (r.identifier? raw).isSome

def size (r : Registry) : Nat := r.assigned.length

/-- Makes an identifier unavailable for raw names to come. -/
def reserve (r : Registry) (identifier : String) : Registry :=
  { r with taken := identifier :: r.taken }

/-- The identifier of a raw name, assigned on first use. -/
def resolve (r : Registry) (raw : String) : String × Registry :=
  match r.identifier? raw with
  | some identifier => (identifier, r)
  | none =>
    let candidate := r.style raw
    let identifier := suffixed candidate (firstFree r.taken candidate)
    (identifier, { r with
      taken := identifier :: r.taken
      assigned := (raw, identifier) :: r.assigned })

/-- Assigns identifiers to raw names in order. -/
def resolveAll (r : Registry) (raws : List String) : Registry :=
  raws.foldl (fun r raw => (r.resolve raw).2) r

end Registry

end ApiClient.Name

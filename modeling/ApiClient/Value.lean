import ApiClient.Calendar
import ApiClient.Fault
import ApiClient.Number.Binary64
import ApiClient.Text.Point

/-!
# Values of a description

The values that a structured document holds. A map keeps its entries in the order of their first
appearance, and any value may stand where a description expects a text. A value may contain
itself; its parts are therefore reached through `asList?`, `asMap?` and the functions built on
them, which unroll it by one level.
-/

namespace ApiClient

inductive Value where
  | null
  | bool (b : Bool)
  | int (n : Int)
  | float (x : Binary64)
  | text (s : String)
  | bytes (octets : List UInt8)
  | date (d : Date)
  | moment (m : Moment)
  | pair (first second : Value)
  | set (members : List Value)
  | list (items : List Value)
  | map (entries : List (Value × Value))
  /-- A value known by a mark; inside it, `again mark` stands for the whole. -/
  | knot (mark : Nat) (v : Value)
  | again (mark : Nat)

instance : Inhabited Value := ⟨.null⟩

namespace Value

/-- Null, false, zero and everything empty count as absent. -/
def truthy : Value → Bool
  | null => false
  | bool b => b
  | int n => n ≠ 0
  | float x => !x.isZero
  | text s => s ≠ ""
  | bytes octets => !octets.isEmpty
  | set members => !members.isEmpty
  | list items => !items.isEmpty
  | map entries => !entries.isEmpty
  | knot _ v => v.truthy
  | date _ | moment _ | pair _ _ | again _ => true

mutual

/-- The number of values inside a value, itself included. -/
def size : Value → Nat
  | pair a b => size a + size b + 1
  | set members => sizeOfAll members + 1
  | list items => sizeOfAll items + 1
  | map entries => sizeOfEntries entries + 1
  | knot _ v => size v + 1
  | _ => 1

def sizeOfAll : List Value → Nat
  | [] => 0
  | v :: vs => size v + sizeOfAll vs

def sizeOfEntries : List (Value × Value) → Nat
  | [] => 0
  | (k, v) :: es => size k + size v + sizeOfEntries es

end

/-! ## Values that contain themselves -/

mutual

/-- Puts the whole in the place of `again mark`. A knot with the same mark is a whole of its
own. -/
def plug (mark : Nat) (whole : Value) : Value → Value
  | again m => if m = mark then whole else again m
  | knot m v => if m = mark then knot m v else knot m (plug mark whole v)
  | pair a b => pair (plug mark whole a) (plug mark whole b)
  | set members => set (plugAll mark whole members)
  | list items => list (plugAll mark whole items)
  | map entries => map (plugEntries mark whole entries)
  | v => v

def plugAll (mark : Nat) (whole : Value) : List Value → List Value
  | [] => []
  | v :: vs => plug mark whole v :: plugAll mark whole vs

def plugEntries (mark : Nat) (whole : Value) : List (Value × Value) → List (Value × Value)
  | [] => []
  | (k, v) :: es => (plug mark whole k, plug mark whole v) :: plugEntries mark whole es

end

/-- The value with its outermost knot unrolled. -/
def opened : Value → Value
  | knot mark v => plug mark (knot mark v) v
  | v => v

def asList? (v : Value) : Option (List Value) :=
  match v.opened with
  | list items => some items
  | _ => none

def asMap? (v : Value) : Option (List (Value × Value)) :=
  match v.opened with
  | map entries => some entries
  | _ => none

/-! ## Equality -/

/-- A truth value counts as zero or one wherever numbers are compared. -/
def number? : Value → Option (Int ⊕ Binary64)
  | bool b => some (.inl (if b then 1 else 0))
  | int n => some (.inl n)
  | float x => some (.inr x)
  | _ => none

/-- Equality of numbers across their kinds; other values are no numbers. -/
def sameNumber (a b : Value) : Bool :=
  match a.number?, b.number? with
  | some (.inl m), some (.inl n) => m = n
  | some (.inl m), some (.inr y) => y.sameInt m
  | some (.inr x), some (.inl n) => x.sameInt n
  | some (.inr x), some (.inr y) => x.same y
  | _, _ => false

mutual

/-- Equality of values, by which keys are found. The order of entries and members does not
matter; a value that contains itself equals nothing. -/
def same : Value → Value → Bool
  | null, null => true
  | text s, text t => s = t
  | bytes a, bytes b => a = b
  | date a, date b => a = b
  | moment a, moment b => a.same b
  | pair a b, pair c d => same a c && same b d
  | set as, set bs => as.length = bs.length && sameMembers as bs
  | list as, list bs => sameItems as bs
  | map as, map bs => as.length = bs.length && sameEntries as bs
  | a, b => sameNumber a b

def sameItems : List Value → List Value → Bool
  | [], [] => true
  | a :: as, b :: bs => same a b && sameItems as bs
  | _, _ => false

/-- Whether every member of the first is one of the second. -/
def sameMembers : List Value → List Value → Bool
  | [], _ => true
  | a :: as, bs => bs.any (same a) && sameMembers as bs

/-- Whether every entry of the first is one of the second. -/
def sameEntries : List (Value × Value) → List (Value × Value) → Bool
  | [], _ => true
  | (k, v) :: es, fs => fs.any (fun f => same k f.1 && same v f.2) && sameEntries es fs

end

/-- Whether the value may be a key or a member of a set. -/
def hashable : Value → Bool
  | set _ | list _ | map _ | again _ => false
  | pair a b => hashable a && hashable b
  | knot _ v => hashable v
  | _ => true

/-- Membership in a set of keys. -/
def isIn (v : Value) (vs : List Value) : Bool := vs.any (same v)

def isText (v : Value) (s : String) : Bool :=
  match v with
  | text t => t = s
  | _ => false

def isNull : Value → Bool
  | null => true
  | _ => false

/-- The text to look up in a set of texts, if the value is one. A list or a map cannot even be
looked up. -/
def word? (v : Value) : Except Fault (Option String) :=
  match v with
  | text s => .ok (some s)
  | set _ => .ok none
  | v => if v.hashable then .ok none else .error .unsuitable

/-! ## Maps -/

/-- The value under a text key. -/
def lookup (entries : List (Value × Value)) (key : String) : Option Value :=
  (entries.find? (·.1.isText key)).map (·.2)

/-- Puts a value under a key. A key that is present keeps its place and its own form. -/
def insert {α : Type} (entries : List (Value × α)) (key : Value) (v : α) : List (Value × α) :=
  if entries.any (·.1.same key) then
    entries.map fun e => if e.1.same key then (e.1, v) else e
  else entries ++ [(key, v)]

def ofEntries (entries : List (Value × Value)) : Value :=
  map (entries.foldl (fun es e => insert es e.1 e.2) [])

def entries (v : Value) : Except Fault (List (Value × Value)) :=
  match v.asMap? with
  | some entries => .ok entries
  | none => .error .noSuchPart

/-- The entry of a map under a text key; any other kind of value has none to ask for. -/
def field? (v : Value) (key : String) : Except Fault (Option Value) :=
  v.entries.map (lookup · key)

/-- The entry under a text key, null where there is none. -/
def field (v : Value) (key : String) : Except Fault Value :=
  (v.field? key).map (·.getD null)

/-- An absent value is read as an empty map. -/
def orEmptyMap (v : Value) : Value := if v.truthy then v else map []

/-- An absent value is read as an empty list. -/
def orEmptyList (v : Value) : Value := if v.truthy then v else list []

/-- What the value yields when it is gone through: the items of a list, the keys of a map, the
points of a text. -/
def items (v : Value) : Except Fault (List Value) :=
  match v.opened with
  | list vs | set vs => .ok vs
  | map es => .ok (es.map (·.1))
  | text s => .ok ((Text.points s.toList).map fun n => text (String.ofList (Text.keepPoint n)))
  | bytes octets => .ok (octets.map fun b => int b.toNat)
  | pair a b => .ok [a, b]
  | _ => .error .unsuitable

/-- The text itself; octets resemble a text enough to be refused differently from the rest. -/
def asText : Value → Except Fault String
  | text s => .ok s
  | bytes _ => .error .unsuitable
  | _ => .error .noSuchPart

end Value

instance : Coe String Value := ⟨.text⟩

end ApiClient

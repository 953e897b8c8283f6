import ApiClient.Value

/-!
# Order of the members of a set

The members of a set come in the order of their places in a table. A number is put at the place
that its residue names or, when that is taken, at the first free place of a path that the residue
lays out. Where a member has no residue, the members stay in the order in which they were written.
-/

namespace ApiClient.Value

/-- The prime that residues are taken by. -/
def residueModulus : Nat := Nat.pow 2 61 - 1

/-- A residue with its sign as a word of 64 bits; minus one counts as minus two. -/
def residueWord (negative : Bool) (r : Nat) : Nat :=
  if negative && r ≠ 0 then Nat.pow 2 64 - max r 2 else r

/-- The residue of a number or of what is empty. Equal numbers have equal residues, whatever their
kind: the prime is `2 ^ 61 - 1`, so that the residues of powers of two repeat after 61 steps. -/
def residue? : Value → Option Nat
  | bool b => some (if b then 1 else 0)
  | int n => some (residueWord (n < 0) (n.natAbs % residueModulus))
  | float (.finite negative m e) =>
    some (residueWord negative (m * Nat.pow 2 (e % 61).toNat % residueModulus))
  | float (.infinity negative) => some (residueWord negative 314159)
  | text "" | bytes [] => some 0
  | _ => none

/-- The number of places for `n` members: eight, or the least power of two above `2 * n`. -/
def placeCount (n : Nat) : Nat := if n ≤ 4 then 8 else Nat.pow 2 ((2 * n).log2 + 1)

/-- The first free place on a path from place `i` on. At each stop nine more places in a row are
tried if there are so many; what is left of the residue bends the path, and in the end it visits
every place. -/
def freePlace (table : Array (Option Value)) : Nat → Nat → Nat → Nat
  | 0, _, i => i
  | fuel + 1, rest, i =>
    let near := if i + 9 < table.size then List.range 10 else [0]
    match near.find? fun k => (table.getD (i + k) none).isNone with
    | some k => i + k
    | none =>
      let rest := rest / 32
      freePlace table fuel rest ((5 * i + 1 + rest) % table.size)

/-- Puts a member at its place. -/
def seat (table : Array (Option Value)) (member : Value) (residue : Nat) : Array (Option Value) :=
  table.setIfInBounds
    (freePlace table (table.size + 14) residue (residue % table.size)) (some member)

/-- The members of a set in their order. -/
def seated (members : List Value) : List Value :=
  match members.mapM residue? with
  | none => members
  | some residues =>
    let table := (members.zip residues).foldl (fun table e => seat table e.1 e.2)
      (Array.replicate (placeCount members.length) none)
    table.toList.filterMap id

end ApiClient.Value

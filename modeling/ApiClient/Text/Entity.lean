import ApiClient.Text.Digit
import ApiClient.Text.EntityTable
import ApiClient.Text.Point

/-!
# Character references

Named and numeric references of marked-up text are replaced in one pass from left to right. A
name may be cut short: the longest known name at its start counts.
-/

namespace ApiClient.Text

/-- The numeral of a reference is too long. -/
inductive EntityError where
  | numeralTooLong
  deriving DecidableEq

/-- The text of the reference to number `n`. -/
def numberReference (n : Nat) : List Char :=
  match remappedNumbers.lookup n with
  | some m => [Char.ofNat m]
  | none =>
    if n.isValidChar then
      if droppedNumbers.any fun r => r.1 ≤ n && n ≤ r.2 then [] else keepPoint n
    else [Char.ofNat 0xFFFD]

def namedReference? (name : List Char) : Option (List Char) :=
  (namedReferences.lookup (String.ofList name)).map (·.map Char.ofNat)

/-- The longest proper beginning of `name`, of at most `n` and at least two characters, that is
known, expanded and followed by the rest of the name. -/
def shortenedReference? (name : List Char) : Nat → Option (List Char)
  | 0 | 1 => none
  | n + 2 =>
    match namedReference? (name.take (n + 2)) with
    | some text => some (text ++ name.drop (n + 2))
    | none => shortenedReference? name (n + 1)

/-- The text of a named reference; an unknown one keeps its ampersand. -/
def nameReference (name : List Char) : List Char :=
  ((namedReference? name).or (shortenedReference? name (name.length - 1))).getD ('&' :: name)

def isNameChar (c : Char) : Bool :=
  !(['\t', '\n', '\x0c', ' ', '<', '&', '#', ';'].contains c)

def isHexDigit (c : Char) : Bool :=
  c.isDigit || ('a' ≤ c && c ≤ 'f') || ('A' ≤ c && c ≤ 'F')

def hexNumber (cs : List Char) : Nat :=
  cs.foldl (fun n c =>
    16 * n + (if c.isDigit then c.toNat - 48 else (c.toLower.toNat - 97) + 10)) 0

/-- The length of the semicolon that closes a reference, zero when there is none. -/
def semicolonLength : List Char → Nat
  | ';' :: _ => 1
  | _ => 0

/-- The reference that begins right after an ampersand: its text and its length. -/
def reference? (cs : List Char) : Except EntityError (Option (List Char × Nat)) :=
  match cs with
  | '#' :: x :: rest =>
    if x.isDigit then
      let ds := (x :: rest).takeWhile Char.isDigit
      let used := 1 + ds.length
      if maxNumeralDigits < ds.length then .error .numeralTooLong
      else .ok (some (numberReference ((readNat? ds).getD 0), used + semicolonLength (cs.drop used)))
    else
      let ds := rest.takeWhile isHexDigit
      let used := 2 + ds.length
      if (x = 'x' ∨ x = 'X') ∧ ds ≠ [] then
        .ok (some (numberReference (hexNumber ds), used + semicolonLength (cs.drop used)))
      else .ok none
  | _ =>
    let name := (cs.takeWhile isNameChar).take 32
    if name = [] then .ok none
    else
      let used := name.length + semicolonLength (cs.drop name.length)
      .ok (some (nameReference (cs.take used), used))

/-- Replaces references after the first `skip` characters, which belong to one already read. -/
def decodeEntitiesFrom : Nat → List Char → Except EntityError (List Char)
  | _, [] => .ok []
  | skip + 1, _ :: cs => decodeEntitiesFrom skip cs
  | 0, c :: cs =>
    if c = '&' then
      match reference? cs with
      | .error e => .error e
      | .ok (some (text, used)) => (decodeEntitiesFrom used cs).map (text ++ ·)
      | .ok none => (decodeEntitiesFrom 0 cs).map (c :: ·)
    else (decodeEntitiesFrom 0 cs).map (c :: ·)

def decodeEntities (cs : List Char) : Except EntityError (List Char) := decodeEntitiesFrom 0 cs

end ApiClient.Text

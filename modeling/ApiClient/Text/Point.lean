import ApiClient.Text.Surrogate

/-!
# Points of a text

A text is a row of numbered points: characters, and halves of surrogate pairs that stand alone. A
string has no room for a half and keeps a stand-in for it, one of the reserved characters. A
reserved character that is itself a point of the text is kept as a mark and the character a fixed
distance above. So every row of points is kept in a way of its own (`points_ofPoints`), and what
is cut at characters that are not reserved is cut at points.
-/

namespace ApiClient.Text

/-- The number of the first reserved character, the stand-in for the first half. -/
def firstReserved : Nat := 0x10E000

/-- The number of the last reserved character, which is the mark. -/
def lastReserved : Nat := 0x10E800

/-- How far above a reserved character the one behind the mark is. -/
def distance : Nat := 0x1000

def mark : Char := Char.ofNat lastReserved

def isReserved (n : Nat) : Bool := firstReserved ≤ n && n ≤ lastReserved

/-- The characters that keep a point. -/
def keepPoint (n : Nat) : List Char :=
  if isHalf n then [Char.ofNat (n - 0xD800 + firstReserved)]
  else if isReserved n then [mark, Char.ofNat (n + distance)]
  else [Char.ofNat n]

def ofPoints (ns : List Nat) : List Char := ns.flatMap keepPoint

/-- The point that a character keeps without a mark before it. -/
def pointOf (c : Char) : Nat :=
  if firstReserved ≤ c.toNat && c.toNat < lastReserved then c.toNat - firstReserved + 0xD800
  else c.toNat

/-- The points of a text. -/
def points : List Char → List Nat
  | c :: d :: cs => if c = mark then (d.toNat - distance) :: points cs else pointOf c :: points (d :: cs)
  | [c] => [pointOf c]
  | [] => []

/-- The text that consists of characters. -/
def keep (cs : List Char) : List Char := ofPoints (cs.map Char.toNat)

def char? (n : Nat) : Option Char := if h : n.isValidChar then some (Char.ofNatAux n h) else none

/-- The characters of a text; halves that stand alone are left out. -/
def chars (cs : List Char) : List Char := (points cs).filterMap char?

/-- The characters of a text, unless a half stands alone in it. -/
def chars? (cs : List Char) : Option (List Char) := (points cs).mapM char?

/-! ## What is kept is found again -/

def IsPoint (n : Nat) : Prop := n < 0x110000

theorem isPoint_toNat (c : Char) : IsPoint c.toNat := by
  have h := c.valid
  simp only [UInt32.isValidChar, Nat.isValidChar] at h
  show c.val.toNat < _
  omega

theorem isHalf_iff {n : Nat} : isHalf n = true ↔ 0xD800 ≤ n ∧ n < 0xE000 := by
  simp only [isHalf, isHighHalf, isLowHalf, Bool.or_eq_true, Bool.and_eq_true, decide_eq_true_eq]
  omega

theorem isReserved_iff {n : Nat} : isReserved n = true ↔ firstReserved ≤ n ∧ n ≤ lastReserved := by
  simp only [isReserved, Bool.and_eq_true, decide_eq_true_eq]

theorem toNat_ofNat {n : Nat} (h : n.isValidChar) : (Char.ofNat n).toNat = n := by
  rw [Char.ofNat, dif_pos h]
  rfl

theorem ofNat_ne_mark {n : Nat} (h : n.isValidChar) (ne : n ≠ lastReserved) : Char.ofNat n ≠ mark := by
  intro same
  apply ne
  rw [← toNat_ofNat h, same]
  rfl

theorem points_cons {c : Char} (h : c ≠ mark) (cs : List Char) :
    points (c :: cs) = pointOf c :: points cs := by
  cases cs with
  | nil => simp [points]
  | cons d cs => simp [points, h]

theorem points_mark_cons (d : Char) (cs : List Char) :
    points (mark :: d :: cs) = (d.toNat - distance) :: points cs := by
  simp [points]

theorem pointOf_eq (c : Char) :
    pointOf c = if firstReserved ≤ c.toNat ∧ c.toNat < lastReserved
      then c.toNat - firstReserved + 0xD800 else c.toNat := by
  simp only [pointOf, Bool.and_eq_true, decide_eq_true_eq]

theorem points_keepPoint_append {n : Nat} (h : IsPoint n) (cs : List Char) :
    points (keepPoint n ++ cs) = n :: points cs := by
  unfold IsPoint at h
  unfold keepPoint
  by_cases half : isHalf n = true
  · rw [if_pos half, List.singleton_append]
    rw [isHalf_iff] at half
    have valid : (n - 0xD800 + firstReserved).isValidChar := by
      unfold Nat.isValidChar firstReserved
      omega
    have ne : n - 0xD800 + firstReserved ≠ lastReserved := by
      unfold firstReserved lastReserved
      omega
    have inside : firstReserved ≤ n - 0xD800 + firstReserved
        ∧ n - 0xD800 + firstReserved < lastReserved := by
      unfold firstReserved lastReserved
      omega
    rw [points_cons (ofNat_ne_mark valid ne), pointOf_eq, toNat_ofNat valid, if_pos inside,
      Nat.add_sub_cancel, Nat.sub_add_cancel half.1]
  · rw [if_neg half]
    rw [isHalf_iff] at half
    by_cases reserved : isReserved n = true
    · rw [if_pos reserved]
      rw [isReserved_iff] at reserved
      have valid : (n + distance).isValidChar := by
        unfold firstReserved lastReserved at reserved
        unfold Nat.isValidChar distance
        omega
      show points (mark :: Char.ofNat (n + distance) :: cs) = _
      rw [points_mark_cons, toNat_ofNat valid, Nat.add_sub_cancel]
    · rw [if_neg reserved, List.singleton_append]
      rw [isReserved_iff] at reserved
      have valid : n.isValidChar := by
        unfold Nat.isValidChar
        omega
      have ne : n ≠ lastReserved := by
        unfold firstReserved lastReserved at *
        omega
      have outside : ¬(firstReserved ≤ n ∧ n < lastReserved) := by
        omega
      rw [points_cons (ofNat_ne_mark valid ne), pointOf_eq, toNat_ofNat valid, if_neg outside]

/-- What is kept of a row of points are these points. -/
theorem points_ofPoints {ns : List Nat} (h : ∀ n ∈ ns, IsPoint n) : points (ofPoints ns) = ns := by
  induction ns with
  | nil => rfl
  | cons n ns ih =>
    rw [List.forall_mem_cons] at h
    rw [ofPoints, List.flatMap_cons, points_keepPoint_append h.1]
    exact congrArg (n :: ·) (ih h.2)

theorem points_keep (cs : List Char) : points (keep cs) = cs.map Char.toNat :=
  points_ofPoints fun n h => by
    obtain ⟨c, -, rfl⟩ := List.mem_map.1 h
    exact isPoint_toNat c

theorem char?_toNat (c : Char) : char? c.toNat = some c := by
  have h : c.toNat.isValidChar := c.valid
  rw [char?, dif_pos h]
  rfl

theorem chars_keep (cs : List Char) : chars (keep cs) = cs := by
  rw [chars, points_keep]
  induction cs with
  | nil => rfl
  | cons c cs ih => rw [List.map_cons, List.filterMap_cons, char?_toNat, ih]

theorem chars?_keep (cs : List Char) : chars? (keep cs) = some cs := by
  rw [chars?, points_keep]
  induction cs with
  | nil => rfl
  | cons c cs ih => simp [char?_toNat, ih]

end ApiClient.Text

namespace ApiClient

/-- The string that keeps a text of characters. -/
def kept (s : String) : String := String.ofList (Text.keep s.toList)

/-- The characters of a text as a string. -/
def shown (s : String) : String := String.ofList (Text.chars s.toList)

end ApiClient

import ApiClient.Dispatch
import ApiClient.Operation
import Mathlib.Tactic.Common

/-!
# Declared statuses

A status is a numeral for one code or the text of a hundred, and reading it tells the two apart.
The text of a hundred may carry a line end, which the reading overlooks. Once the branches are
arranged, the first one that covers a code is the first that names it, and only if there is none
the first whose hundred holds it.
-/

namespace ApiClient

/-! ## Numerals -/

namespace Text

/-- Every run of decimal digits lies inside a run of digits. -/
theorem decimalDigits_within_digits :
    ∀ r ∈ decimalDigits.ranges, ∃ s ∈ digits.ranges, s.1 ≤ r.1 ∧ r.2 ≤ s.2 := by
  decide +kernel

theorem isDigit_of_digitValue? {c : Char} (h : (digitValue? c).isSome) : isDigit c := by
  unfold digitValue? at h
  rw [Option.isSome_map] at h
  obtain ⟨r, hfound⟩ := Option.isSome_iff_exists.1 h
  have hmem := List.mem_of_find?_eq_some hfound
  have hrange := List.find?_some hfound
  obtain ⟨s, hs, hlow, hhigh⟩ := decimalDigits_within_digits r hmem
  simp only [Bool.and_eq_true, decide_eq_true_eq] at hrange
  unfold isDigit CharSet.contains
  rw [List.any_eq_true]
  refine ⟨s, hs, ?_⟩
  simp only [Bool.and_eq_true, decide_eq_true_eq]
  omega

private def addDigit (n : Option Nat) (c : Char) : Option Nat := do
  return 10 * (← n) + (← digitValue? c)

/-- A run yields a number just if each of its characters has a value. -/
private theorem isSome_foldl_addDigit {cs : List Char} {n : Option Nat} :
    (cs.foldl addDigit n).isSome ↔ n.isSome ∧ ∀ c ∈ cs, (digitValue? c).isSome := by
  induction cs generalizing n with
  | nil => simp
  | cons c cs ih =>
    have hhead : (addDigit n c).isSome ↔ n.isSome ∧ (digitValue? c).isSome := by
      cases n with
      | none => simp [addDigit]
      | some n => cases hc : digitValue? c <;> simp [addDigit, hc]
    rw [List.foldl_cons, ih, hhead, List.forall_mem_cons, and_assoc]

/-- A run of characters is read as a number just if there are some and each has a value. -/
theorem isSome_readNat?_iff {cs : List Char} :
    (readNat? cs).isSome ↔ cs ≠ [] ∧ ∀ c ∈ cs, (digitValue? c).isSome := by
  cases cs with
  | nil => simp [readNat?]
  | cons c cs =>
    have hfold : ((c :: cs).foldl addDigit (some 0)).isSome ↔ _ := isSome_foldl_addDigit
    exact hfold.trans ⟨fun h ↦ ⟨List.cons_ne_nil c cs, h.2⟩, fun h ↦ ⟨rfl, h.2⟩⟩

theorem readNat?_eq_none_iff {cs : List Char} (hne : cs ≠ []) :
    readNat? cs = none ↔ ∃ c ∈ cs, digitValue? c = none := by
  rw [← Option.not_isSome_iff_eq_none, isSome_readNat?_iff]
  simp [hne]

theorem isDigit_of_readNat? {cs : List Char} {n : Nat} (h : readNat? cs = some n) :
    cs ≠ [] ∧ cs.all isDigit := by
  obtain ⟨hne, hvalues⟩ := isSome_readNat?_iff.1 (Option.isSome_of_eq_some h)
  exact ⟨hne, List.all_eq_true.2 fun c hc ↦ isDigit_of_digitValue? (hvalues c hc)⟩

end Text

/-! ## Reading a status -/

namespace StatusPattern

/-- The hundreds that have a text. -/
def hundreds : List Nat := [1, 2, 3, 4, 5]

/-- The text of a hundred of codes. -/
def hundredText (k : Nat) : String := k.repr ++ "XX"

/-- What may follow the text of a hundred without being looked at. -/
def overlooked : List String := ["", "\n"]

/-- Whether a status is a numeral for a code. -/
def names (status : String) (c : Int) : Bool :=
  (Text.readNat? status.toList).any fun n ↦ (n : Int) = c

/-- Whether a status is the text of a hundred that holds a code, with one of some endings. -/
def spans (endings : List String) (status : String) (c : Int) : Bool :=
  hundreds.any fun k ↦
    (endings.any fun ending ↦ status = hundredText k ++ ending) && (range k).covers c

/-- The status consists of digits but is no number: one of them has no decimal value, or there are
too many. -/
structure Unreadable (status : String) : Prop where
  ne_nil : status.toList ≠ []
  digits : ∀ c ∈ status.toList, Text.isDigit c = true
  refused : Text.maxNumeralDigits < status.toList.length ∨
    ∃ c ∈ status.toList, Text.digitValue? c = none

theorem spans_mono {endings endings' : List String} (h : endings ⊆ endings') {status : String}
    {c : Int} (hspans : spans endings status c) : spans endings' status c := by
  obtain ⟨k, hk, hspan⟩ := List.any_eq_true.1 hspans
  rw [Bool.and_eq_true, List.any_eq_true] at hspan
  obtain ⟨⟨ending, hending, hstatus⟩, hcovers⟩ := hspan
  refine List.any_eq_true.2 ⟨k, hk, ?_⟩
  rw [Bool.and_eq_true, List.any_eq_true]
  exact ⟨⟨ending, h hending, hstatus⟩, hcovers⟩

/-- Endings that a status has for no hundred do not matter. -/
theorem spans_congr {endings endings' : List String} {status : String}
    (h : ∀ k ∈ hundreds, (endings.any fun ending ↦ status = hundredText k ++ ending) =
      endings'.any fun ending ↦ status = hundredText k ++ ending) (c : Int) :
    spans endings status c = spans endings' status c := by
  rw [Bool.eq_iff_iff, spans, spans, List.any_eq_true, List.any_eq_true]
  apply exists_congr
  intro k
  apply and_congr_right
  intro hk
  rw [h k hk]

theorem parse?_hundredText {k : Nat} (hk : k ∈ hundreds) {ending : String}
    (h : ending ∈ overlooked) : parse? (hundredText k ++ ending) = .ok (some (range k)) := by
  simp only [hundreds, List.mem_cons, List.not_mem_nil, or_false] at hk
  simp only [overlooked, List.mem_cons, List.not_mem_nil, or_false] at h
  rcases hk with rfl | rfl | rfl | rfl | rfl <;> rcases h with rfl | rfl <;> rfl

/-- The status of a hundred is its text, with an ending that is overlooked. -/
theorem eq_hundredText_of_parse? {status : String} {k : Nat}
    (h : parse? status = .ok (some (range k))) :
    k ∈ hundreds ∧ ∃ ending ∈ overlooked, status = hundredText k ++ ending := by
  have hdigit {c : Char} (hlow : '1' ≤ c) (hhigh : c ≤ '5') :
      c.toNat - 48 ∈ hundreds ∧ [c] = (c.toNat - 48).repr.toList := by
    have hlow' : 49 ≤ c.toNat := hlow
    have hhigh' : c.toNat ≤ 53 := hhigh
    obtain rfl | rfl | rfl | rfl | rfl : c = '1' ∨ c = '2' ∨ c = '3' ∨ c = '4' ∨ c = '5' := by
      simp only [← Char.toNat_inj]
      change c.toNat = 49 ∨ c.toNat = 50 ∨ c.toNat = 51 ∨ c.toNat = 52 ∨ c.toNat = 53
      omega
    all_goals decide
  unfold parse? at h
  simp only at h
  split at h
  · split at h
    · cases h
    · split at h <;> cases h
  · split at h
    · next c hstatus =>
      split at h
      · next hbounds =>
        obtain ⟨hmem, htext⟩ := hdigit hbounds.1 hbounds.2
        cases h
        refine ⟨hmem, "", by decide, ?_⟩
        rw [← String.toList_inj, hstatus, hundredText, String.toList_append, String.toList_append,
          ← htext]
        rfl
      · cases h
    · next c hstatus =>
      split at h
      · next hbounds =>
        obtain ⟨hmem, htext⟩ := hdigit hbounds.1 hbounds.2
        cases h
        refine ⟨hmem, "\n", by decide, ?_⟩
        rw [← String.toList_inj, hstatus, hundredText, String.toList_append, String.toList_append,
          ← htext]
        rfl
      · cases h
    · cases h

theorem parse?_of_readNat? {status : String} {n : Nat} {p : Option StatusPattern}
    (hn : Text.readNat? status.toList = some n) (h : parse? status = .ok p) :
    p = some (exact n) := by
  obtain ⟨hne, hdigits⟩ := Text.isDigit_of_readNat? hn
  have hnumeral : (!status.toList.isEmpty && status.toList.all Text.isDigit) = true := by
    rw [hdigits, Bool.and_true, Bool.not_eq_true', List.isEmpty_eq_false_iff]
    exact hne
  simp only [parse?, hnumeral, hn, if_true] at h
  split at h
  · cases h
  · cases h
    rfl

theorem readNat?_of_parse? {status : String} {n : Nat}
    (h : parse? status = .ok (some (exact n))) : Text.readNat? status.toList = some n := by
  unfold parse? at h
  simp only at h
  split at h
  · split at h
    · cases h
    · split at h
      · next code hcode =>
        cases h
        exact hcode
      · cases h
  · split at h
    all_goals first | cases h | (split at h <;> cases h)

/-- A status that was read names a code just if it was read as that code. -/
theorem names_eq_of_parse? {status : String} {p : Option StatusPattern}
    (h : parse? status = .ok p) (c : Int) :
    names status c = p.any fun q ↦ q.isExact && q.covers c := by
  unfold names
  cases hn : Text.readNat? status.toList with
  | some n =>
    rw [parse?_of_readNat? hn h]
    simp [isExact, covers, eq_comm]
  | none =>
    rcases p with _ | (n | k)
    · rfl
    · rw [readNat?_of_parse? h] at hn
      cases hn
    · rfl

theorem parse?_eq_of_spans {status : String} {p : Option StatusPattern} {c : Int}
    (h : parse? status = .ok p) (hspans : spans overlooked status c) :
    ∃ k, p = some (range k) ∧ (range k).covers c := by
  obtain ⟨k, hk, hspan⟩ := List.any_eq_true.1 hspans
  rw [Bool.and_eq_true, List.any_eq_true] at hspan
  obtain ⟨⟨ending, hending, hstatus⟩, hcovers⟩ := hspan
  rw [decide_eq_true_eq] at hstatus
  rw [hstatus, parse?_hundredText hk hending, Except.ok.injEq] at h
  exact ⟨k, h.symm, hcovers⟩

/-- A status that was read spans a code just if it was read as a hundred that holds it. -/
theorem spans_eq_of_parse? {status : String} {p : Option StatusPattern}
    (h : parse? status = .ok p) (c : Int) :
    spans overlooked status c = p.any fun q ↦ !q.isExact && q.covers c := by
  rw [Bool.eq_iff_iff]
  constructor
  · intro hspans
    obtain ⟨k, rfl, hcovers⟩ := parse?_eq_of_spans h hspans
    exact hcovers
  · intro hany
    rcases p with _ | (n | k)
    · cases hany
    · cases hany
    · obtain ⟨hk, ending, hending, hstatus⟩ := eq_hundredText_of_parse? h
      refine List.any_eq_true.2 ⟨k, hk, ?_⟩
      rw [Bool.and_eq_true, List.any_eq_true]
      exact ⟨⟨ending, hending, decide_eq_true hstatus⟩, hany⟩

/-- Reading a status ends in a fault just if it consists of digits and is no number. -/
theorem parse?_eq_error_iff {status : String} {fault : Fault} :
    parse? status = .error fault ↔ Unreadable status ∧ fault = .outOfRange := by
  have hnumeral : (!status.toList.isEmpty && status.toList.all Text.isDigit) = true ↔
      status.toList ≠ [] ∧ ∀ c ∈ status.toList, Text.isDigit c = true := by simp
  unfold parse?
  by_cases hnumeric : (!status.toList.isEmpty && status.toList.all Text.isDigit) = true
  · obtain ⟨hne, hdigits⟩ := hnumeral.1 hnumeric
    rw [if_pos hnumeric]
    by_cases hlong : Text.maxNumeralDigits < status.toList.length
    · rw [if_pos hlong, Except.error.injEq]
      exact ⟨fun h ↦ ⟨⟨hne, hdigits, .inl hlong⟩, h.symm⟩, fun h ↦ h.2.symm⟩
    · rw [if_neg hlong]
      cases hread : Text.readNat? status.toList with
      | none =>
        rw [Except.error.injEq]
        have hvalue := (Text.readNat?_eq_none_iff hne).1 hread
        exact ⟨fun h ↦ ⟨⟨hne, hdigits, .inr hvalue⟩, h.symm⟩, fun h ↦ h.2.symm⟩
      | some code =>
        refine ⟨nofun, fun ⟨h, _⟩ ↦ ?_⟩
        rcases h.refused with hmany | hvalue
        · exact absurd hmany hlong
        · rw [(Text.readNat?_eq_none_iff hne).2 hvalue] at hread
          cases hread
  · rw [if_neg hnumeric]
    refine ⟨fun h ↦ ?_, fun ⟨h, _⟩ ↦ absurd (hnumeral.2 ⟨h.ne_nil, h.digits⟩) hnumeric⟩
    split at h
    · split at h <;> cases h
    · split at h <;> cases h
    · cases h

/-- A pattern that covers a code lies below 400 just if the code does. -/
theorem least_lt_iff {p : StatusPattern} {c : Int} (h : p.covers c) : p.least < 400 ↔ c < 400 := by
  cases p with
  | exact code =>
    have hcode : c = code := by simpa [covers] using h
    simp only [least]
    omega
  | range k =>
    have hrange : 100 * (k : Int) ≤ c ∧ c < 100 * k + 100 := by simpa [covers] using h
    simp only [least]
    omega

end StatusPattern

/-! ## Arranged branches -/

theorem arrange_perm (branches : List Branch) : (arrange branches).Perm branches :=
  List.filter_append_perm _ _

theorem find?_arrange (branches : List Branch) (p : Branch → Bool) :
    (arrange branches).find? p =
      (branches.find? fun b ↦ b.condition.isExact && p b).or
        (branches.find? fun b ↦ !b.condition.isExact && p b) := by
  rw [arrange, List.find?_append, List.find?_filter, List.find?_filter]
  simp only [Bool.decide_and, Bool.decide_eq_true]

section

variable {branches : List Branch} {b : Branch} {c : Int}

theorem dispatch_arrange_of_code
    (h : branches.find? (fun b ↦ b.condition.isExact && b.condition.covers c) = some b) :
    dispatch (arrange branches) c = b.outcome := by
  rw [dispatch, find?_arrange, h, Option.some_or]

theorem dispatch_arrange_of_hundred
    (hcode : branches.find? (fun b ↦ b.condition.isExact && b.condition.covers c) = none)
    (h : branches.find? (fun b ↦ !b.condition.isExact && b.condition.covers c) = some b) :
    dispatch (arrange branches) c = b.outcome := by
  rw [dispatch, find?_arrange, hcode, h, Option.none_or]

theorem dispatch_arrange_of_none
    (hcode : branches.find? (fun b ↦ b.condition.isExact && b.condition.covers c) = none)
    (hhundred : branches.find? (fun b ↦ !b.condition.isExact && b.condition.covers c) = none) :
    dispatch (arrange branches) c = if c < 400 then .content else .error := by
  rw [dispatch, find?_arrange, hcode, hhundred, Option.none_or]

end

end ApiClient

import ApiClient.Value
import Mathlib.Data.Rat.Lemmas
import Mathlib.Tactic.Common
import Mathlib.Tactic.FieldSimp
import Mathlib.Tactic.Ring

/-!
# Equality of values

Numbers are compared across their kinds by the amount that they stand for, which is exact. So the
equality by which keys are found is transitive: a key that is found in a list is found among the
keys that equal those of the list.
-/

namespace ApiClient

/-! ## Amounts of numbers -/

/-- What a number stands for. What is no number stands for its mark. -/
inductive Amount where
  | nan (mark : Nat)
  | infinity (negative : Bool)
  | finite (q : ℚ)

namespace Binary64

/-- The number `m * 2 ^ e`, negated when `s` holds. -/
def rational (s : Bool) (m : Nat) (e : Int) : ℚ := (if s then -(m : ℚ) else m) * 2 ^ e

def amount : Binary64 → Amount
  | nan mark => .nan mark
  | infinity s => .infinity s
  | finite s m e => .finite (rational s m e)

/-- Units of a number that are no greater than its own count the number. -/
theorem unitsOf_eq (s : Bool) (m : Nat) {own e : Int} (h : e ≤ own) :
    (unitsOf s m own e : ℚ) = rational s m own * 2 ^ (-e) := by
  have hpow : ((2 ^ (own - e).toNat : ℕ) : ℚ) = 2 ^ own * 2 ^ (-e) := by
    calc ((2 ^ (own - e).toNat : ℕ) : ℚ)
      _ = (2 : ℚ) ^ ((own - e).toNat : ℤ) := by rw [zpow_natCast, Nat.cast_pow, Nat.cast_ofNat]
      _ = 2 ^ (own - e) := by rw [Int.toNat_of_nonneg (by omega)]
      _ = 2 ^ own * 2 ^ (-e) := by rw [sub_eq_add_neg, zpow_add₀ two_ne_zero]
  have hcount : ((m * 2 ^ (own - e).toNat : ℕ) : ℚ) = m * (2 ^ own * 2 ^ (-e)) := by
    rw [Nat.cast_mul, hpow]
  unfold unitsOf rational
  change ((if s then -((m * 2 ^ (own - e).toNat : ℕ) : ℤ) else ((m * 2 ^ (own - e).toNat : ℕ) : ℤ) :
    ℤ) : ℚ) = _
  split
  · rw [Int.cast_neg, Int.cast_natCast, hcount]
    ring
  · rw [Int.cast_natCast, hcount]
    ring

theorem two_zpow_ne_zero (e : Int) : (2 : ℚ) ^ e ≠ 0 := zpow_ne_zero e two_ne_zero

theorem same_iff (x y : Binary64) : x.same y = true ↔ x.amount = y.amount := by
  cases x <;> cases y
  case finite.finite s m e t n f =>
    rw [same, decide_eq_true_iff, amount, amount, Amount.finite.injEq, ← Int.cast_inj (α := ℚ),
      unitsOf_eq s m (min_le_left e f), unitsOf_eq t n (min_le_right e f)]
    exact mul_left_inj' (two_zpow_ne_zero _)
  all_goals simp [same, amount]

theorem sameInt_iff (x : Binary64) (n : Int) : x.sameInt n = true ↔ x.amount = .finite n := by
  cases x with
  | finite s m e =>
    have hone : ((n * (Nat.pow 2 (-min e 0).toNat : Nat) : Int) : ℚ) = n * 2 ^ (-min e 0) := by
      rw [Int.cast_mul, Int.cast_natCast, Nat.pow_eq, Nat.cast_pow, Nat.cast_ofNat, ← zpow_natCast,
        Int.toNat_of_nonneg (by omega)]
    rw [sameInt, decide_eq_true_iff, amount, Amount.finite.injEq, ← Int.cast_inj (α := ℚ),
      unitsOf_eq s m (min_le_left e 0), hone]
    exact mul_left_inj' (two_zpow_ne_zero _)
  | _ => simp [sameInt, amount]

end Binary64

namespace Value

/-- What a value stands for among numbers. -/
def amount? (v : Value) : Option Amount :=
  v.number?.map fun
    | .inl n => .finite n
    | .inr x => x.amount

theorem sameNumber_iff (a b : Value) :
    a.sameNumber b = true ↔ ∃ q, a.amount? = some q ∧ b.amount? = some q := by
  unfold sameNumber amount?
  rcases a.number? with _ | m | x <;> rcases b.number? with _ | n | y
  case some.inl.some.inl => simpa using eq_comm
  case some.inl.some.inr => simp [Binary64.sameInt_iff]
  case some.inr.some.inl => simpa [Binary64.sameInt_iff] using eq_comm
  case some.inr.some.inr => simpa [Binary64.same_iff] using eq_comm
  all_goals simp

theorem sameNumber_trans {a b c : Value} (h : a.sameNumber b = true) (h' : b.sameNumber c = true) :
    a.sameNumber c = true := by
  obtain ⟨q, ha, hb⟩ := (sameNumber_iff a b).1 h
  obtain ⟨q', hb', hc⟩ := (sameNumber_iff b c).1 h'
  obtain rfl : q = q' := Option.some.inj (hb.symm.trans hb')
  exact (sameNumber_iff a c).2 ⟨q, ha, hc⟩

/-! ## Transitivity -/

/-- A number is compared as one. -/
theorem same_eq_sameNumber {a : Value} (h : a.number?.isSome = true) (b : Value) :
    a.same b = a.sameNumber b := by
  cases a with
  | bool | int | float => cases b <;> simp [same]
  | _ => simp [number?] at h

theorem sameMembers_iff (as bs : List Value) :
    sameMembers as bs = true ↔ ∀ a ∈ as, ∃ b ∈ bs, a.same b = true := by
  induction as with
  | nil => simp [sameMembers]
  | cons a as ih => simp [sameMembers, ih]

theorem sameEntries_iff (es fs : List (Value × Value)) :
    sameEntries es fs = true ↔
      ∀ e ∈ es, ∃ f ∈ fs, e.1.same f.1 = true ∧ e.2.same f.2 = true := by
  induction es with
  | nil => simp [sameEntries]
  | cons e es ih =>
    obtain ⟨k, v⟩ := e
    simp [sameEntries, ih]

mutual

theorem same_trans {a b c : Value} (h : a.same b = true) (h' : b.same c = true) :
    a.same c = true := by
  match a with
  | null =>
    cases b with
    | null => exact h'
    | _ => simp [same, sameNumber, number?] at h
  | text s =>
    cases b with
    | text t =>
      obtain rfl : s = t := by simpa [same] using h
      exact h'
    | _ => simp [same, sameNumber, number?] at h
  | bytes octets =>
    cases b with
    | bytes octets' =>
      obtain rfl : octets = octets' := by simpa [same] using h
      exact h'
    | _ => simp [same, sameNumber, number?] at h
  | date d =>
    cases b with
    | date e =>
      obtain rfl : d = e := by simpa [same] using h
      exact h'
    | _ => simp [same, sameNumber, number?] at h
  | moment m =>
    cases b with
    | moment n =>
      cases c with
      | moment o =>
        simp only [same, Moment.same, Bool.and_eq_true, decide_eq_true_eq] at h h' ⊢
        exact ⟨h.1.trans h'.1, h.2.trans h'.2⟩
      | _ => simp [same, sameNumber, number?] at h'
    | _ => simp [same, sameNumber, number?] at h
  | pair a₁ a₂ =>
    cases b with
    | pair b₁ b₂ =>
      cases c with
      | pair c₁ c₂ =>
        simp only [same, Bool.and_eq_true] at h h' ⊢
        exact ⟨same_trans h.1 h'.1, same_trans h.2 h'.2⟩
      | _ => simp [same, sameNumber, number?] at h'
    | _ => simp [same, sameNumber, number?] at h
  | set as =>
    cases b with
    | set bs =>
      cases c with
      | set cs =>
        simp only [same, Bool.and_eq_true, decide_eq_true_eq] at h h' ⊢
        exact ⟨h.1.trans h'.1, sameMembers_trans h.2 h'.2⟩
      | _ => simp [same, sameNumber, number?] at h'
    | _ => simp [same, sameNumber, number?] at h
  | list as =>
    cases b with
    | list bs =>
      cases c with
      | list cs =>
        simp only [same] at h h' ⊢
        exact sameItems_trans h h'
      | _ => simp [same, sameNumber, number?] at h'
    | _ => simp [same, sameNumber, number?] at h
  | map as =>
    cases b with
    | map bs =>
      cases c with
      | map cs =>
        simp only [same, Bool.and_eq_true, decide_eq_true_eq] at h h' ⊢
        exact ⟨h.1.trans h'.1, sameEntries_trans h.2 h'.2⟩
      | _ => simp [same, sameNumber, number?] at h'
    | _ => simp [same, sameNumber, number?] at h
  | knot _ _ | again _ => cases b <;> simp [same, sameNumber, number?] at h
  | bool _ | int _ | float _ =>
    rw [same_eq_sameNumber rfl] at h ⊢
    obtain ⟨q, -, hb⟩ := (sameNumber_iff _ _).1 h
    have hnumber : b.number?.isSome = true := by
      rw [← Option.isSome_map]
      exact Option.isSome_of_eq_some hb
    rw [same_eq_sameNumber hnumber] at h'
    exact sameNumber_trans h h'

theorem sameItems_trans {as bs cs : List Value} (h : sameItems as bs = true)
    (h' : sameItems bs cs = true) : sameItems as cs = true := by
  match as, bs, cs with
  | [], [], [] => exact h
  | a :: as, b :: bs, c :: cs =>
    simp only [sameItems, Bool.and_eq_true] at h h' ⊢
    exact ⟨same_trans h.1 h'.1, sameItems_trans h.2 h'.2⟩
  | [], _ :: _, _ | _ :: _, [], _ => simp [sameItems] at h
  | _, [], _ :: _ | _, _ :: _, [] => simp [sameItems] at h'

theorem sameMembers_trans {as bs cs : List Value} (h : sameMembers as bs = true)
    (h' : sameMembers bs cs = true) : sameMembers as cs = true := by
  match as with
  | [] => rw [sameMembers]
  | a :: as =>
    rw [sameMembers, Bool.and_eq_true, List.any_eq_true] at h ⊢
    obtain ⟨⟨b, hb, hab⟩, hrest⟩ := h
    obtain ⟨c, hc, hbc⟩ := (sameMembers_iff bs cs).1 h' b hb
    exact ⟨⟨c, hc, same_trans hab hbc⟩, sameMembers_trans hrest h'⟩

theorem sameEntries_trans {es fs gs : List (Value × Value)} (h : sameEntries es fs = true)
    (h' : sameEntries fs gs = true) : sameEntries es gs = true := by
  match es with
  | [] => rw [sameEntries]
  | (k, v) :: es =>
    simp only [sameEntries, Bool.and_eq_true, List.any_eq_true] at h ⊢
    obtain ⟨⟨f, hf, hkey, hvalue⟩, hrest⟩ := h
    obtain ⟨g, hg, hkey', hvalue'⟩ := (sameEntries_iff fs gs).1 h' f hf
    exact ⟨⟨g, hg, same_trans hkey hkey', same_trans hvalue hvalue'⟩,
      sameEntries_trans hrest h'⟩

end

/-! ## Symmetry -/

theorem sameNumber_comm (a b : Value) : a.sameNumber b = b.sameNumber a := by
  rw [Bool.eq_iff_iff, sameNumber_iff, sameNumber_iff]
  exact exists_congr fun _ ↦ and_comm

/-- A key equals a value just if the value equals the key. -/
theorem same_comm {a : Value} (h : a.hashable = true) (b : Value) : a.same b = b.same a := by
  match a with
  | pair a₁ a₂ =>
    rw [hashable, Bool.and_eq_true] at h
    cases b with
    | pair b₁ b₂ => simp only [same, same_comm h.1 b₁, same_comm h.2 b₂]
    | _ => simp [same, sameNumber, number?]
  | bool _ | int _ | float _ =>
    rw [same_eq_sameNumber rfl, sameNumber_comm]
    cases b <;> simp [same, sameNumber, number?]
  | null | text _ | bytes _ | date _ | knot _ _ =>
    cases b <;> simp [same, sameNumber, number?, eq_comm]
  | moment m =>
    cases b with
    | moment n => simp only [same, Moment.same, eq_comm]
    | _ => simp [same, sameNumber, number?]

/-- A key that equals one of two equal values equals the other. -/
theorem same_right_congr {key a b : Value} (hkey : key.hashable = true) (h : a.same b = true) :
    key.same a = key.same b := by
  rw [Bool.eq_iff_iff]
  refine ⟨fun ha ↦ same_trans ha h, fun hb ↦ ?_⟩
  rw [same_comm hkey] at hb ⊢
  exact same_trans h hb

end Value

end ApiClient

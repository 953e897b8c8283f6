import ApiClient.Number.Shortest
import Mathlib.Data.List.TakeWhile

/-!
# Digits of the shortest form

The shortest form of a number other than zero has a digit other than zero, so one is left once the
zeros at its end are dropped, unless no form was found.
-/

namespace ApiClient.Binary64

theorem exists_ne_zero_of_toDigits {n : Nat} (h : n ≠ 0) : ∃ c ∈ Nat.toDigits 10 n, c ≠ '0' := by
  induction n using Nat.strongRecOn with
  | ind n ih =>
    by_cases hless : n < 10
    · rw [Nat.toDigits_of_lt_base hless]
      have hall : ∀ n < 10, n ≠ 0 → n.digitChar ≠ '0' := by decide
      exact ⟨_, List.mem_singleton_self _, hall n hless h⟩
    · obtain ⟨c, hc, hne⟩ := ih (n / 10) (by omega) (by omega)
      rw [Nat.toDigits_of_base_le (by decide) (by omega)]
      exact ⟨c, List.mem_append_left _ hc, hne⟩

theorem mem_of_mem_dropTrailingZeros {cs : List Char} {c : Char} (h : c ∈ dropTrailingZeros cs) :
    c ∈ cs := by
  rw [dropTrailingZeros, List.mem_reverse] at h
  exact List.mem_reverse.1 ((List.dropWhile_sublist _).subset h)

theorem dropTrailingZeros_ne_nil {cs : List Char} (h : ∃ c ∈ cs, c ≠ '0') :
    dropTrailingZeros cs ≠ [] := by
  obtain ⟨c, hc, hne⟩ := h
  rw [dropTrailingZeros, Ne, List.reverse_eq_nil_iff, List.dropWhile_eq_nil_iff]
  intro hall
  exact hne (by simpa using hall c (List.mem_reverse.2 hc))

/-- Zero is not in an interval above it. -/
theorem Interval.contains_zero {i : Interval} (h : 0 < i.low) (s : Int) :
    i.contains s 0 = false := by
  have hten : (i.ten s 0 i.low).1 = 0 ∧ 0 < (i.ten s 0 i.low).2 := by
    unfold Interval.ten
    split
    · exact ⟨by simp, h⟩
    · exact ⟨by simp, Nat.mul_pos h (Nat.pow_pos (by decide))⟩
  unfold Interval.contains
  rcases hlow : i.ten s 0 i.low with ⟨least, low⟩
  rw [hlow] at hten
  obtain ⟨rfl, hpos⟩ : least = 0 ∧ 0 < low := hten
  have hfirst : ¬ low ≤ 0 ∧ ¬ low < 0 := by omega
  simp [hfirst]

/-- The digits of the shortest form of a number are not zero, unless no form was found. -/
theorem shortest_cases {m : Nat} (h : m ≠ 0) (e : Int) :
    (shortest m e).1 ≠ 0 ∨ shortest m e = (0, 0) := by
  have hlow : 0 < (interval m e).low := by
    unfold interval
    apply Nat.mul_pos _ (Nat.pow_pos (by decide))
    split <;> omega
  have hsearch : ∀ p fuel n, ((interval m e).search p fuel n).1 ≠ 0 ∨
      (interval m e).search p fuel n = (0, 0) := by
    intro p fuel n
    induction fuel generalizing n with
    | zero => exact .inr rfl
    | succ fuel ih =>
      rw [Interval.search]
      split
      · next a rest hcandidates =>
        have hmem : a ∈ (interval m e).candidates (p - n) := hcandidates ▸ List.mem_cons_self
        have hcontains : (interval m e).contains (p - n) a = true := (List.mem_filter.1 hmem).2
        refine .inl ?_
        rintro rfl
        rw [Interval.contains_zero hlow] at hcontains
        cases hcontains
      · exact ih (n + 1)
  exact hsearch _ _ _

end ApiClient.Binary64

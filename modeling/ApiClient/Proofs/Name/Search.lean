import ApiClient.Proofs.Name.Registry
import Mathlib.Computability.StateTransition
import Mathlib.Data.Finset.Card
import Mathlib.Order.Bounds.Basic

/-!
# Searching for a free identifier

A raw name without an identifier starts a search: as long as the identifier at hand is taken, the
number goes up and is appended to the styled name. The search has no bound of its own. It ends since
the identifiers that it tries are all different, so that the ones before the last are as many taken
identifiers.
-/

namespace ApiClient.Name

variable {taken : List String} {candidate : String}

/-! ## The least free suffix -/

theorem suffixed_of_pos {k : ℕ} (h : 1 ≤ k) (candidate : String) :
    suffixed candidate k = candidate ++ "_" ++ k.repr := by
  rw [suffixed, if_neg (by omega)]

theorem isLeast_firstFree (taken : List String) (candidate : String) :
    IsLeast {k | suffixed candidate k ∉ taken} (firstFree taken candidate) := by
  refine ⟨suffixed_firstFree_not_mem taken candidate, fun k hfree ↦ ?_⟩
  by_contra hless
  exact hfree (mem_of_lt_firstFree (Nat.not_le.1 hless))

/-- Every suffix that is passed over costs a taken identifier of its own. -/
theorem firstFree_le_card (taken : List String) (candidate : String) :
    firstFree taken candidate ≤ taken.toFinset.card := by
  let passed := (Finset.range (firstFree taken candidate)).image (suffixed candidate)
  have hsubset : passed ⊆ taken.toFinset := by
    intro identifier hmem
    obtain ⟨j, hj, rfl⟩ := Finset.mem_image.1 hmem
    exact List.mem_toFinset.2 (mem_of_lt_firstFree (Finset.mem_range.1 hj))
  calc firstFree taken candidate
      = passed.card := by
        rw [Finset.card_image_of_injective _ (suffixed_injective candidate), Finset.card_range]
    _ ≤ taken.toFinset.card := Finset.card_le_card hsubset

/-! ## The search as a loop -/

/-- A round of the search, from a number and an identifier to the next ones. A free identifier ends
the search. -/
def retry (taken : List String) (candidate : String) : ℕ × String → Option (ℕ × String)
  | (k, identifier) =>
    if identifier ∈ taken then some (k + 1, candidate ++ "_" ++ (k + 1).repr) else none

theorem retry_suffixed {k : ℕ} (h : suffixed candidate k ∈ taken) :
    retry taken candidate (k, suffixed candidate k) = some (k + 1, suffixed candidate (k + 1)) := by
  rw [retry, if_pos h, suffixed_of_pos (Nat.le_add_left 1 k)]

/-- The search comes to every suffix before which all are taken. -/
theorem reaches_suffixed {k : ℕ} (h : ∀ j < k, suffixed candidate j ∈ taken) :
    StateTransition.Reaches (retry taken candidate) (0, candidate) (k, suffixed candidate k) := by
  induction k with
  | zero => exact .refl
  | succ k ih =>
    have hreached := ih fun j hj ↦ h j (Nat.lt_succ_of_lt hj)
    exact hreached.tail (retry_suffixed (h k k.lt_succ_self))

/-- The search ends, with the least suffix that makes the candidate free. -/
theorem firstFree_mem_eval_retry (taken : List String) (candidate : String) :
    (firstFree taken candidate, suffixed candidate (firstFree taken candidate)) ∈
      StateTransition.eval (retry taken candidate) (0, candidate) := by
  refine StateTransition.mem_eval.2 ⟨reaches_suffixed fun j ↦ mem_of_lt_firstFree, ?_⟩
  rw [retry, if_neg (suffixed_firstFree_not_mem taken candidate)]

/-! ## Resolving a new name -/

namespace Registry

/-- Whatever is taken and whatever the style is, the search for a raw name without an identifier
ends, and its last state holds the identifier that the name is given. This is the styled name if
that is free, and otherwise the styled name with the least number from one on that makes it free.
The number is at most that of the different identifiers that are taken. -/
theorem resolve_least (r : Registry) (raw : String) (hnew : r.identifier? raw = none) :
    ∃ k ≤ r.taken.toFinset.card,
      (k, (r.resolve raw).1) ∈ StateTransition.eval (retry r.taken (r.style raw)) (0, r.style raw) ∧
      (r.style raw ∉ r.taken → k = 0 ∧ (r.resolve raw).1 = r.style raw) ∧
      (r.style raw ∈ r.taken → (r.resolve raw).1 = r.style raw ++ "_" ++ k.repr ∧
        IsLeast {j | 1 ≤ j ∧ r.style raw ++ "_" ++ j.repr ∉ r.taken} k) := by
  obtain ⟨hfree, hleast⟩ := isLeast_firstFree r.taken (r.style raw)
  rw [resolve_of_new hnew, nextIdentifier]
  refine ⟨firstFree r.taken (r.style raw), firstFree_le_card _ _, firstFree_mem_eval_retry _ _,
    fun hstyle ↦ ?_, fun hstyle ↦ ?_⟩
  · have hzero : firstFree r.taken (r.style raw) = 0 := Nat.le_zero.1 (hleast hstyle)
    exact ⟨hzero, by rw [hzero]; rfl⟩
  · have hpos : 1 ≤ firstFree r.taken (r.style raw) := by
      by_contra hzero
      rw [Set.mem_ofPred_eq, Nat.lt_one_iff.1 (Nat.not_le.1 hzero)] at hfree
      exact hfree hstyle
    refine ⟨suffixed_of_pos hpos _, ⟨hpos, ?_⟩, fun j hj ↦ hleast ?_⟩
    · rw [← suffixed_of_pos hpos]
      exact hfree
    · rw [Set.mem_ofPred_eq, suffixed_of_pos hj.1]
      exact hj.2

/-- A registry in which a name and its first suffix are taken, the name twice. -/
def crowded : Registry := new ["Pet", "Pet_1", "Pet"] token

/-- The search passes over two taken identifiers. -/
theorem resolve_least_crowded :
    crowded.identifier? "pet" = none ∧ crowded.style "pet" ∈ crowded.taken ∧
    2 ≤ crowded.taken.toFinset.card ∧
    (2, "Pet_2") ∈
      StateTransition.eval (retry crowded.taken (crowded.style "pet")) (0, crowded.style "pet") ∧
    (crowded.resolve "pet").1 = "Pet_2" ∧
    IsLeast {j | 1 ≤ j ∧ crowded.style "pet" ++ "_" ++ j.repr ∉ crowded.taken} 2 := by
  have hstyle : crowded.style "pet" ∈ crowded.taken := by decide
  have hrun : (2, "Pet_2") ∈
      StateTransition.eval (retry crowded.taken (crowded.style "pet")) (0, crowded.style "pet") :=
    StateTransition.mem_eval.2 ⟨.head (b := (1, "Pet_1")) (by decide) (.single (by decide)),
      by decide⟩
  obtain ⟨k, hcard, hends, -, htaken⟩ := resolve_least crowded "pet" rfl
  obtain ⟨rfl, hresolved⟩ := Prod.mk.inj (Part.mem_unique hends hrun)
  exact ⟨rfl, hstyle, hcard, hrun, hresolved, (htaken hstyle).2⟩

end Registry

end ApiClient.Name

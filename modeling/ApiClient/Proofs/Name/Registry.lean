import ApiClient.Name.Registry
import Mathlib.Data.List.Induction
import Mathlib.Data.List.Nodup

/-!
# Assignment of identifiers

A registry never changes its mind: an identifier that was free when a raw name took it stays with
that name, and no other name gets it. The invariant ties the assigned identifiers to the taken
ones; the search for a free suffix cannot fail, since the suffixed candidates are all different.
A registry is used through a row of calls, and what is said of the answers to such a row is read
off the registry that it leaves behind.
-/

namespace ApiClient.Name

/-! ## Free identifiers -/

theorem repr_injective : Function.Injective Nat.repr := by
  intro m n h
  have hdigits : Nat.toDigits 10 m = Nat.toDigits 10 n := String.ofList_injective h
  rw [← Nat.ofDigitChars_ten_toDigits (n := m), hdigits, Nat.ofDigitChars_ten_toDigits]

theorem suffixed_succ (candidate : String) (k : Nat) :
    suffixed candidate (k + 1) = candidate ++ ("_" ++ (k + 1).repr) := by
  rw [← String.append_assoc]
  rfl

/-- A suffix is never empty, so no suffixed candidate is the candidate itself. -/
theorem suffixed_succ_ne (candidate : String) (k : Nat) :
    suffixed candidate (k + 1) ≠ candidate := by
  intro h
  have hlength := congrArg String.length h
  rw [suffixed_succ, String.length_append, String.length_append] at hlength
  have hbar : "_".length = 1 := rfl
  omega

theorem suffixed_injective (candidate : String) : Function.Injective (suffixed candidate) := by
  intro m n h
  cases m with
  | zero =>
    cases n with
    | zero => rfl
    | succ n => exact absurd h.symm (suffixed_succ_ne candidate n)
  | succ m =>
    cases n with
    | zero => exact absurd h (suffixed_succ_ne candidate m)
    | succ n =>
      rw [suffixed_succ, suffixed_succ, String.append_right_inj, String.append_right_inj] at h
      exact repr_injective h

/-- There are more candidates to try than taken identifiers. -/
theorem exists_suffixed_free (taken : List String) (candidate : String) :
    ∃ k < taken.length + 1, suffixed candidate k ∉ taken := by
  by_contra! h
  have hnodup : ((List.range (taken.length + 1)).map (suffixed candidate)).Nodup :=
    List.nodup_range.map (suffixed_injective candidate)
  have hsubset : (List.range (taken.length + 1)).map (suffixed candidate) ⊆ taken := by
    intro identifier hmem
    obtain ⟨k, hk, rfl⟩ := List.mem_map.1 hmem
    exact h k (List.mem_range.1 hk)
  have hlength := hnodup.length_le_of_subset hsubset
  rw [List.length_map, List.length_range] at hlength
  omega

theorem suffixed_firstFree_not_mem (taken : List String) (candidate : String) :
    suffixed candidate (firstFree taken candidate) ∉ taken := by
  obtain ⟨k, hk, hfree⟩ := exists_suffixed_free taken candidate
  unfold firstFree
  cases hfound : (List.range (taken.length + 1)).find?
      fun k ↦ !taken.contains (suffixed candidate k) with
  | none =>
    have hnone := List.find?_eq_none.1 hfound k (List.mem_range.2 hk)
    simp [hfree] at hnone
  | some k => simpa using List.find?_some hfound

/-- Every suffix that is passed over is taken. -/
theorem mem_of_lt_firstFree {taken : List String} {candidate : String} {j : Nat}
    (h : j < firstFree taken candidate) : suffixed candidate j ∈ taken := by
  unfold firstFree at h
  cases hfound : (List.range (taken.length + 1)).find?
      fun k ↦ !taken.contains (suffixed candidate k) with
  | none =>
    rw [hfound] at h
    cases h
  | some k =>
    rw [hfound] at h
    have hbefore := (List.find?_range_eq_some.1 hfound).2.2 j h
    simpa using hbefore

namespace Registry

/-! ## The invariant -/

/-- Assigned identifiers are taken, and no two raw names share one. -/
structure Sound (r : Registry) : Prop where
  taken : ∀ {raw identifier}, r.identifier? raw = some identifier → identifier ∈ r.taken
  injective : ∀ {raw raw' identifier}, r.identifier? raw = some identifier →
    r.identifier? raw' = some identifier → raw = raw'

/-- A registry and one that further calls turned it into: what is taken stays taken, what is
assigned stays assigned, and what is assigned anew was not taken and is a styled name with a
suffix. -/
structure Extends (r s : Registry) : Prop where
  style : s.style = r.style
  taken : ∀ {identifier}, identifier ∈ r.taken → identifier ∈ s.taken
  assigned : ∀ {raw identifier}, r.identifier? raw = some identifier →
    s.identifier? raw = some identifier
  fresh : ∀ {raw identifier}, r.identifier? raw = none → s.identifier? raw = some identifier →
    identifier ∉ r.taken
  styled : ∀ {raw identifier}, r.identifier? raw = none → s.identifier? raw = some identifier →
    ∃ k, identifier = suffixed (r.style raw) k

theorem Extends.refl (r : Registry) : r.Extends r where
  style := rfl
  taken h := h
  assigned h := h
  fresh h h' := by simp [h] at h'
  styled h h' := by simp [h] at h'

theorem Extends.trans {r s t : Registry} (h : r.Extends s) (h' : s.Extends t) : r.Extends t where
  style := h'.style.trans h.style
  taken hmem := h'.taken (h.taken hmem)
  assigned hraw := h'.assigned (h.assigned hraw)
  fresh {raw identifier} hnew hraw := by
    cases hmid : s.identifier? raw with
    | none => exact fun hmem ↦ h'.fresh hmid hraw (h.taken hmem)
    | some early =>
      have hsame : early = identifier := by
        simpa [h'.assigned hmid] using hraw
      exact hsame ▸ h.fresh hnew hmid
  styled {raw identifier} hnew hraw := by
    cases hmid : s.identifier? raw with
    | none => exact h.style ▸ h'.styled hmid hraw
    | some early =>
      have hsame : early = identifier := by
        simpa [h'.assigned hmid] using hraw
      exact hsame ▸ h.styled hnew hmid

theorem sound_new (reserved : List String) (style : String → String) :
    (new reserved style).Sound where
  taken h := by simp [identifier?, new] at h
  injective h := by simp [identifier?, new] at h

/-- Raw names and identifiers are matched one to one. -/
theorem Sound.biUnique {r : Registry} (h : r.Sound) :
    Relator.BiUnique fun raw identifier ↦ r.identifier? raw = some identifier :=
  ⟨fun _ _ _ hraw hraw' ↦ h.injective hraw hraw',
    fun _ _ _ hx hy ↦ Option.some.inj (hx.symm.trans hy)⟩

theorem identifier?_new (reserved : List String) (style : String → String) (raw : String) :
    (new reserved style).identifier? raw = none := rfl

/-! ## Resolving -/

/-- The identifier that a raw name without one is given. -/
def nextIdentifier (r : Registry) (raw : String) : String :=
  suffixed (r.style raw) (firstFree r.taken (r.style raw))

theorem nextIdentifier_not_mem (r : Registry) (raw : String) : r.nextIdentifier raw ∉ r.taken :=
  suffixed_firstFree_not_mem _ _

theorem resolve_of_assigned {r : Registry} {raw identifier : String}
    (h : r.identifier? raw = some identifier) : r.resolve raw = (identifier, r) := by
  simp only [resolve, h]

theorem resolve_of_new {r : Registry} {raw : String} (h : r.identifier? raw = none) :
    r.resolve raw = (r.nextIdentifier raw, { r with
      taken := r.nextIdentifier raw :: r.taken
      assigned := (raw, r.nextIdentifier raw) :: r.assigned }) := by
  simp only [resolve, h, nextIdentifier]

/-- After a resolution the raw name has its identifier, and the other names keep theirs. -/
theorem identifier?_resolve (r : Registry) (raw raw' : String) :
    (r.resolve raw).2.identifier? raw' =
      if raw' = raw then some (r.resolve raw).1 else r.identifier? raw' := by
  cases h : r.identifier? raw with
  | some identifier =>
    rw [resolve_of_assigned h]
    split
    · next hsame => rw [hsame, h]
    · rfl
  | none =>
    rw [resolve_of_new h]
    simp only [identifier?, List.lookup_cons]
    by_cases hsame : raw' = raw
    · simp [hsame]
    · simp [hsame, beq_eq_false_iff_ne.2 hsame]

theorem identifier?_resolve_self (r : Registry) (raw : String) :
    (r.resolve raw).2.identifier? raw = some (r.resolve raw).1 := by
  rw [identifier?_resolve, if_pos rfl]

theorem extends_resolve (r : Registry) (raw : String) : r.Extends (r.resolve raw).2 := by
  cases h : r.identifier? raw with
  | some identifier =>
    rw [resolve_of_assigned h]
    exact .refl r
  | none =>
    have hkeep {raw' identifier : String} (hraw : r.identifier? raw' = some identifier) :
        raw' ≠ raw := by
      rintro rfl
      simp [h] at hraw
    refine ⟨?_, ?_, ?_, ?_, ?_⟩
    · rw [resolve_of_new h]
    · intro identifier hmem
      rw [resolve_of_new h]
      exact List.mem_cons_of_mem _ hmem
    · intro raw' identifier hraw
      rw [identifier?_resolve, if_neg (hkeep hraw), hraw]
    · intro raw' identifier hnew hraw
      rw [identifier?_resolve] at hraw
      split at hraw
      · rw [resolve_of_new h, Option.some.injEq] at hraw
        exact hraw ▸ r.nextIdentifier_not_mem raw
      · simp [hnew] at hraw
    · intro raw' identifier hnew hraw
      rw [identifier?_resolve] at hraw
      split at hraw
      · next hsame =>
        rw [resolve_of_new h, Option.some.injEq] at hraw
        exact ⟨firstFree r.taken (r.style raw), by rw [← hraw, hsame]; rfl⟩
      · simp [hnew] at hraw

theorem Sound.resolve {r : Registry} (h : r.Sound) (raw : String) : (r.resolve raw).2.Sound := by
  cases hraw : r.identifier? raw with
  | some identifier =>
    rw [resolve_of_assigned hraw]
    exact h
  | none =>
    have htaken : (r.resolve raw).2.taken = (r.resolve raw).1 :: r.taken := by
      rw [resolve_of_new hraw]
    have hfresh : (r.resolve raw).1 ∉ r.taken := by
      rw [resolve_of_new hraw]
      exact r.nextIdentifier_not_mem raw
    refine ⟨?_, ?_⟩
    · intro raw' identifier h'
      rw [identifier?_resolve] at h'
      rw [htaken, List.mem_cons]
      split at h'
      · exact .inl (Option.some.inj h').symm
      · exact .inr (h.taken h')
    · intro raw₁ raw₂ identifier h₁ h₂
      rw [identifier?_resolve] at h₁ h₂
      -- the new identifier was free, so it is none of the old ones
      split at h₁ <;> split at h₂
      · next hfst hsnd => rw [hfst, hsnd]
      · exact absurd (h.taken h₂) (Option.some.inj h₁ ▸ hfresh)
      · exact absurd (h.taken h₁) (Option.some.inj h₂ ▸ hfresh)
      · exact h.injective h₁ h₂

/-- A name that was given out is the same later, and to ask for it changes nothing. -/
theorem Extends.resolve_eq {r r' : Registry} {raw : String} (h : (r.resolve raw).2.Extends r') :
    r'.resolve raw = ((r.resolve raw).1, r') :=
  resolve_of_assigned (h.assigned (identifier?_resolve_self r raw))

/-- A name that a registry has given out is not given for another raw name. -/
theorem Sound.resolve_eq_iff {r : Registry} (h : r.Sound)
    {raw raw' identifier : String} (hraw : r.identifier? raw = some identifier) :
    (r.resolve raw').1 = identifier ↔ raw' = raw := by
  constructor
  · rintro rfl
    have hkept := (extends_resolve r raw').assigned hraw
    exact (h.resolve raw').injective (identifier?_resolve_self r raw') hkept
  · rintro rfl
    rw [resolve_of_assigned hraw]

/-! ## Reserving -/

theorem extends_reserve (r : Registry) (identifier : String) : r.Extends (r.reserve identifier) where
  style := rfl
  taken h := List.mem_cons_of_mem _ h
  assigned h := h
  fresh h h' := by
    change r.identifier? _ = _ at h'
    simp [h] at h'
  styled h h' := by
    change r.identifier? _ = _ at h'
    simp [h] at h'

theorem Sound.reserve {r : Registry} (h : r.Sound) (identifier : String) :
    (r.reserve identifier).Sound where
  taken h' := List.mem_cons_of_mem _ (h.taken h')
  injective h₁ h₂ := h.injective h₁ h₂

/-! ## Resolving several names -/

theorem resolveAll_cons (r : Registry) (raw : String) (raws : List String) :
    r.resolveAll (raw :: raws) = (r.resolve raw).2.resolveAll raws := rfl

theorem resolveAll_append (r : Registry) (raws raws' : List String) :
    r.resolveAll (raws ++ raws') = (r.resolveAll raws).resolveAll raws' := List.foldl_append

theorem extends_resolveAll (r : Registry) (raws : List String) : r.Extends (r.resolveAll raws) := by
  induction raws generalizing r with
  | nil => exact .refl r
  | cons raw raws ih => exact (extends_resolve r raw).trans (ih _)

theorem Sound.resolveAll {r : Registry} (h : r.Sound) (raws : List String) :
    (r.resolveAll raws).Sound := by
  induction raws generalizing r with
  | nil => exact h
  | cons raw raws ih => exact ih (h.resolve raw)

theorem contains_resolve (r : Registry) (raw raw' : String) :
    (r.resolve raw).2.contains raw' = (decide (raw' = raw) || r.contains raw') := by
  rw [contains, identifier?_resolve, contains]
  by_cases hsame : raw' = raw
  · simp [hsame]
  · simp [hsame]

/-- The raw names of a registry are those it had and those that were resolved. -/
theorem contains_resolveAll (r : Registry) (raws : List String) (raw : String) :
    (r.resolveAll raws).contains raw = (r.contains raw || raws.contains raw) := by
  induction raws generalizing r with
  | nil => simp [resolveAll]
  | cons raw' raws ih =>
    rw [resolveAll_cons, ih, contains_resolve, List.contains_cons]
    cases r.contains raw <;> by_cases hsame : raw = raw' <;> simp [hsame]

/-! ## Styled names that are taken -/

theorem mem_taken_resolve {r : Registry} {raw identifier : String}
    (h : identifier ∈ (r.resolve raw).2.taken) :
    identifier ∈ r.taken ∨ (r.resolve raw).2.identifier? raw = some identifier := by
  cases hraw : r.identifier? raw with
  | some assigned =>
    rw [resolve_of_assigned hraw] at h
    exact .inl h
  | none =>
    rw [identifier?_resolve_self]
    rw [resolve_of_new hraw] at h ⊢
    rcases List.mem_cons.1 h with hnew | hold
    · exact .inr (congrArg some hnew.symm)
    · exact .inl hold

/-- What is taken was taken before, or is the identifier of a name that was resolved. -/
theorem mem_taken_resolveAll {r : Registry} {raws : List String} {identifier : String}
    (h : identifier ∈ (r.resolveAll raws).taken) :
    identifier ∈ r.taken ∨ ∃ raw ∈ raws, (r.resolveAll raws).identifier? raw = some identifier := by
  induction raws generalizing r with
  | nil => exact .inl h
  | cons raw raws ih =>
    rcases ih h with hhead | ⟨raw', hmem, hraw'⟩
    · refine (mem_taken_resolve hhead).imp_right fun hraw ↦ ?_
      exact ⟨raw, List.mem_cons_self, (extends_resolveAll _ raws).assigned hraw⟩
    · exact .inr ⟨raw', List.mem_cons_of_mem raw hmem, hraw'⟩

/-- A candidate is passed over only if it is taken. -/
theorem mem_of_firstFree_ne_zero {taken : List String} {candidate : String}
    (h : firstFree taken candidate ≠ 0) : candidate ∈ taken :=
  mem_of_lt_firstFree (Nat.pos_of_ne_zero h)

theorem style_mem_taken_resolve {r : Registry} {raw : String} (h : r.identifier? raw = none) :
    r.style raw ∈ (r.resolve raw).2.taken := by
  rw [resolve_of_new h]
  by_cases hfirst : firstFree r.taken (r.style raw) = 0
  · rw [nextIdentifier, hfirst]
    exact List.mem_cons_self
  · exact List.mem_cons_of_mem _ (mem_of_firstFree_ne_zero hfirst)

/-- The styled names of all that a new registry resolves are taken. -/
theorem style_mem_taken_resolveAll (reserved : List String) (style : String → String)
    {raws : List String} {raw : String} (h : raw ∈ raws) :
    style raw ∈ ((new reserved style).resolveAll raws).taken := by
  induction raws using List.reverseRecOn with
  | nil => cases h
  | append_singleton raws last ih =>
    rw [resolveAll_append, resolveAll_cons]
    have hextends := extends_resolve ((new reserved style).resolveAll raws) last
    by_cases hmem : raw ∈ raws
    · exact hextends.taken (ih hmem)
    · obtain rfl : raw = last := by simpa [hmem] using h
      have hnew : ((new reserved style).resolveAll raws).identifier? raw = none := by
        have hcontains := contains_resolveAll (new reserved style) raws raw
        simpa [contains, identifier?_new, hmem] using hcontains
      have hstyle := style_mem_taken_resolve hnew
      rwa [(extends_resolveAll (new reserved style) raws).style] at hstyle

/-! ## Rows of calls -/

inductive Call where
  | resolve (raw : String)
  | reserve (identifier : String)
  deriving DecidableEq

/-- What a call answers, and the registry after it. Only a resolution has an answer. -/
def answer (r : Registry) : Call → Option String × Registry
  | .resolve raw => (some (r.resolve raw).1, (r.resolve raw).2)
  | .reserve identifier => (none, r.reserve identifier)

/-- The answers to calls made one after the other. -/
def answers (r : Registry) : List Call → List (Option String)
  | [] => []
  | c :: calls => (r.answer c).1 :: answers (r.answer c).2 calls

/-- The registry after calls made one after the other. -/
def after (r : Registry) : List Call → Registry
  | [] => r
  | c :: calls => after (r.answer c).2 calls

theorem after_append (r : Registry) (calls calls' : List Call) :
    r.after (calls ++ calls') = (r.after calls).after calls' := by
  induction calls generalizing r with
  | nil => rfl
  | cons c calls ih => exact ih _

theorem extends_answer (r : Registry) (c : Call) : r.Extends (r.answer c).2 := by
  cases c with
  | resolve raw => exact extends_resolve r raw
  | reserve identifier => exact extends_reserve r identifier

theorem Sound.answer {r : Registry} (h : r.Sound) (c : Call) : (r.answer c).2.Sound := by
  cases c with
  | resolve raw => exact h.resolve raw
  | reserve identifier => exact h.reserve identifier

theorem extends_after (r : Registry) (calls : List Call) : r.Extends (r.after calls) := by
  induction calls generalizing r with
  | nil => exact .refl r
  | cons c calls ih => exact (extends_answer r c).trans (ih _)

theorem Sound.after {r : Registry} (h : r.Sound) (calls : List Call) : (r.after calls).Sound := by
  induction calls generalizing r with
  | nil => exact h
  | cons c calls ih => exact ih (h.answer c)

/-- Every resolution in a row of calls is answered with the identifier that the raw name has at
the end. -/
theorem answers_eq_identifier? {r : Registry} {calls : List Call} {i : Nat} {raw : String}
    (h : calls[i]? = some (.resolve raw)) :
    ∃ identifier, (r.answers calls)[i]? = some (some identifier) ∧
      (r.after calls).identifier? raw = some identifier := by
  induction calls generalizing r i with
  | nil => simp at h
  | cons c calls ih =>
    cases i with
    | zero =>
      obtain rfl : c = .resolve raw := by simpa using h
      refine ⟨(r.resolve raw).1, rfl, ?_⟩
      exact (extends_after _ calls).assigned (identifier?_resolve_self r raw)
    | succ i => exact ih (by simpa using h)

theorem identifier?_after_of_not_mem {r : Registry} {calls : List Call} {raw : String}
    (hnew : r.identifier? raw = none) (h : .resolve raw ∉ calls) :
    (r.after calls).identifier? raw = none := by
  induction calls generalizing r with
  | nil => exact hnew
  | cons c calls ih =>
    rw [List.mem_cons, not_or] at h
    refine ih ?_ h.2
    cases c with
    | reserve identifier => exact hnew
    | resolve raw' =>
      have hother : raw ≠ raw' := fun hsame ↦ h.1 (hsame ▸ rfl)
      change (r.resolve raw').2.identifier? raw = none
      rw [identifier?_resolve, if_neg hother, hnew]

/-- A raw name that is resolved for the first time after a reservation is not given what was
reserved. -/
theorem not_reserved_of_identifier? {r : Registry} {before after : List Call}
    {raw identifier : String} (hnew : r.identifier? raw = none) (h : .resolve raw ∉ before)
    (hraw : (r.after (before ++ .reserve identifier :: after)).identifier? raw = some identifier) :
    False := by
  have hmid : ((r.after before).reserve identifier).identifier? raw = none :=
    identifier?_after_of_not_mem hnew h
  rw [after_append] at hraw
  have hextends := extends_after ((r.after before).reserve identifier) after
  exact hextends.fresh hmid hraw List.mem_cons_self

/-- Whatever is asked of a new registry, in whatever order: a raw name is answered with the same
identifier every time, two raw names are never answered alike, and an identifier that is given
out neither is reserved from the start nor was reserved before its raw name was first resolved. -/
theorem answers_consistent (reserved : List String) (style : String → String)
    (calls : List Call) :
    (∀ (i j : Nat) (raw : String), calls[i]? = some (.resolve raw) → calls[j]? = some (.resolve raw) →
      ∃ identifier, ((new reserved style).answers calls)[i]? = some (some identifier) ∧
        ((new reserved style).answers calls)[j]? = some (some identifier)) ∧
    (∀ (i j : Nat) (raw raw' : String), calls[i]? = some (.resolve raw) →
      calls[j]? = some (.resolve raw') → raw ≠ raw' →
      ((new reserved style).answers calls)[i]? ≠ ((new reserved style).answers calls)[j]?) ∧
    (∀ (i : Nat) (raw identifier : String), calls[i]? = some (.resolve raw) →
      ((new reserved style).answers calls)[i]? = some (some identifier) →
      identifier ∉ reserved ∧
      ∀ k : Nat, calls[k]? = some (.reserve identifier) →
        ∃ j < k, calls[j]? = some (.resolve raw)) := by
  have hsound : ((new reserved style).after calls).Sound := (sound_new reserved style).after calls
  refine ⟨?_, ?_, ?_⟩
  · intro i j raw hi hj
    obtain ⟨x, hx, hraw⟩ := answers_eq_identifier? (r := new reserved style) hi
    obtain ⟨y, hy, hraw'⟩ := answers_eq_identifier? (r := new reserved style) hj
    obtain rfl : x = y := by simpa [hraw] using hraw'
    exact ⟨x, hx, hy⟩
  · intro i j raw raw' hi hj hne hsame
    obtain ⟨x, hx, hraw⟩ := answers_eq_identifier? (r := new reserved style) hi
    obtain ⟨y, hy, hraw'⟩ := answers_eq_identifier? (r := new reserved style) hj
    obtain rfl : x = y := by simpa [hx, hy] using hsame
    exact hne (hsound.injective hraw hraw')
  · intro i raw identifier hi hanswer
    obtain ⟨x, hx, hraw⟩ := answers_eq_identifier? (r := new reserved style) hi
    obtain rfl : x = identifier := by simpa [hx] using hanswer
    refine ⟨(extends_after _ calls).fresh (identifier?_new reserved style raw) hraw, ?_⟩
    intro k hk
    by_contra! hfirst
    have hsplit : calls = calls.take k ++ .reserve x :: calls.drop (k + 1) := by
      obtain ⟨hlt, hget⟩ := List.getElem?_eq_some_iff.1 hk
      rw [← hget, ← List.drop_eq_getElem_cons hlt, List.take_append_drop]
    have hbefore : .resolve raw ∉ calls.take k := by
      intro hmem
      obtain ⟨j, hj, hget⟩ := List.mem_take_iff_getElem.1 hmem
      exact hfirst j (by omega) (by rw [← hget]; exact List.getElem?_eq_getElem _)
    rw [hsplit] at hraw
    exact not_reserved_of_identifier? (identifier?_new reserved style raw) hbefore hraw

end Registry

end ApiClient.Name

import ApiClient.Proofs.Work
import Mathlib.Data.List.Forall2

/-!
# Work that concurs

Two pieces of work concur if their results are related wherever both have one. Work on a state
starts in the same state on both sides, and has to leave the same state. Work in steps concurs if
each step does, for related results of the steps before it.
-/

namespace ApiClient

variable {σ α β α' β' : Type}

/-- The results are related if there are two. -/
structure Concur (R : α → β → Prop) (x : Except Fault α) (y : Except Fault β) : Prop where
  rel : ∀ {a b}, x = .ok a → y = .ok b → R a b

namespace Concur

variable {R : α → β → Prop} {S : α' → β' → Prop} {x : Except Fault α} {y : Except Fault β}

theorem ok {a : α} {b : β} (h : R a b) : Concur R (.ok a) (.ok b) where
  rel ha hb := by rwa [← Except.ok.inj ha, ← Except.ok.inj hb]

theorem error_left (fault : Fault) : Concur R (.error fault) y := ⟨fun h ↦ nomatch h⟩

theorem error_right (fault : Fault) : Concur R x (.error fault) := ⟨fun _ h ↦ nomatch h⟩

theorem refl (x : Except Fault α) : Concur Eq x x := ⟨fun h h' ↦ Except.ok.inj (h.symm.trans h')⟩

theorem any (x : Except Fault α) (y : Except Fault β) : Concur (fun _ _ ↦ True) x y :=
  ⟨fun _ _ ↦ trivial⟩

theorem mono {R' : α → β → Prop} (h : Concur R x y) (hR : ∀ a b, R a b → R' a b) :
    Concur R' x y := ⟨fun hx hy ↦ hR _ _ (h.rel hx hy)⟩

/-- The related results are those of the two computations. -/
theorem attach (h : Concur R x y) : Concur (fun a b ↦ R a b ∧ x = .ok a ∧ y = .ok b) x y :=
  ⟨fun hx hy ↦ ⟨h.rel hx hy, hx, hy⟩⟩

theorem bind {f : α → Except Fault α'} {g : β → Except Fault β'} (h : Concur R x y)
    (hf : ∀ a b, R a b → Concur S (f a) (g b)) : Concur S (x >>= f) (y >>= g) := by
  cases x with
  | error fault => exact error_left fault
  | ok a =>
    cases y with
    | error fault => exact error_right fault
    | ok b => exact hf a b (h.rel rfl rfl)

theorem map {f : α → α'} {g : β → β'} (h : Concur R x y) (hf : ∀ a b, R a b → S (f a) (g b)) :
    Concur S (x.map f) (y.map g) := by
  cases x with
  | error fault => exact error_left fault
  | ok a =>
    cases y with
    | error fault => exact error_right fault
    | ok b => exact ok (hf a b (h.rel rfl rfl))

theorem ite {c : Bool} {x' : Except Fault α} {y' : Except Fault β} (h : Concur R x y)
    (h' : Concur R x' y') : Concur R (if c then x else x') (if c then y else y') := by
  cases c with
  | false => exact h'
  | true => exact h

/-- Steps for related items give related results. -/
theorem mapM {f : α → Except Fault α'} {g : β → Except Fault β'}
    (hf : ∀ a b, R a b → Concur S (f a) (g b)) {as : List α} {bs : List β}
    (h : List.Forall₂ R as bs) : Concur (List.Forall₂ S) (as.mapM f) (bs.mapM g) := by
  induction h with
  | nil => exact ok .nil
  | cons hfirst _ ih =>
    rw [List.mapM_cons, List.mapM_cons]
    exact (hf _ _ hfirst).bind fun _ _ hfirst ↦ ih.bind fun _ _ hrest ↦ ok (.cons hfirst hrest)

end Concur

namespace Work

/-- From the same state, the results are related and the states left are the same, if there are two
results. -/
structure Concur (R : α → β → Prop) (x : Work σ α) (y : Work σ β) : Prop where
  rel : ∀ {s a b t u}, exec x s = (.ok a, t) → exec y s = (.ok b, u) → R a b ∧ u = t

namespace Concur

variable {R : α → β → Prop} {S : α' → β' → Prop} {x : Work σ α} {y : Work σ β}

theorem pure {a : α} {b : β} (h : R a b) : Concur R (Pure.pure a : Work σ α) (Pure.pure b) where
  rel hx hy := by
    obtain ⟨rfl, rfl⟩ := exec_pure_eq_ok.1 hx
    obtain ⟨rfl, rfl⟩ := exec_pure_eq_ok.1 hy
    exact ⟨h, rfl⟩

theorem refl (x : Work σ α) : Concur Eq x x where
  rel hx hy := by
    rw [hx] at hy
    cases hy
    exact ⟨rfl, rfl⟩

theorem bind {f : α → Work σ α'} {g : β → Work σ β'} (h : Concur R x y)
    (hf : ∀ a b, R a b → Concur S (f a) (g b)) : Concur S (x >>= f) (y >>= g) where
  rel hx hy := by
    obtain ⟨a, t, hx, hx'⟩ := of_exec_bind hx
    obtain ⟨b, u, hy, hy'⟩ := of_exec_bind hy
    obtain ⟨hfirst, rfl⟩ := h.rel hx hy
    exact (hf a b hfirst).rel hx' hy'

theorem lift_bind {e : Except Fault α} {e' : Except Fault β} {f : α → Work σ α'}
    {g : β → Work σ β'} (h : ApiClient.Concur R e e') (hf : ∀ a b, R a b → Concur S (f a) (g b)) :
    Concur S (liftM e >>= f) (liftM e' >>= g) where
  rel hx hy := by
    obtain ⟨a, ha, hx⟩ := of_exec_lift_bind hx
    obtain ⟨b, hb, hy⟩ := of_exec_lift_bind hy
    exact (hf a b (h.rel ha hb)).rel hx hy

end Concur

end Work

end ApiClient

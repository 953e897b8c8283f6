import ApiClient.Proofs.Work

/-!
# Work on two sides

The same work is carried out in two states. Where the states differ in nothing that the work reads,
it has the same result on both sides and leaves states that again differ in nothing that is read.
What is read may depend on how far the second side comes, so a limit is set to it. Since work only
leads on, the limit holds at every step if it holds at the end.
-/

namespace ApiClient.Work

variable {σ α β : Type}

/-- How work is compared on two sides. -/
structure Sides (σ : Type) where
  /-- A state and those that work may lead to from it. -/
  reaches : σ → σ → Prop
  preorder : IsPreorder σ reaches
  /-- The states that the second side may come to. -/
  within : σ → Prop
  within_of_reaches : ∀ {s t}, reaches s t → within t → within s
  /-- The state of the first side and that of the second. -/
  beside : σ → σ → Prop

namespace Sides

attribute [instance] Sides.preorder

/-- The work leads on, and it does the same on both sides. -/
structure Mirrors (S : Sides σ) (x : Work σ α) : Prop where
  respects : Respects S.reaches x
  same : ∀ {s t}, S.beside s t → S.within (exec x t).2 →
    (exec x s).1 = (exec x t).1 ∧ S.beside (exec x s).2 (exec x t).2

namespace Mirrors

variable {S : Sides σ}

theorem pure (a : α) : S.Mirrors (Pure.pure a : Work σ α) := ⟨Respects.pure a, fun h _ ↦ ⟨rfl, h⟩⟩

theorem throw (fault : Fault) : S.Mirrors (throw fault : Work σ α) :=
  ⟨Respects.throw fault, fun h _ ↦ ⟨rfl, h⟩⟩

theorem lift (e : Except Fault α) : S.Mirrors (liftM e : Work σ α) :=
  ⟨Respects.lift e, fun h _ ↦ ⟨rfl, h⟩⟩

theorem modify {f : σ → σ} (hreaches : ∀ s, S.reaches s (f s))
    (hbeside : ∀ {s t}, S.beside s t → S.within (f t) → S.beside (f s) (f t)) :
    S.Mirrors (modify f : Work σ Unit) :=
  ⟨hreaches, fun h hwithin ↦ ⟨rfl, hbeside h hwithin⟩⟩

/-- A second step counts only for the results that the first one has on the second side. -/
theorem bind_of {x : Work σ α} {f : α → Work σ β} (hx : S.Mirrors x)
    (hreaches : ∀ a, Respects S.reaches (f a))
    (hf : ∀ {t a t'}, exec x t = (.ok a, t') → S.within t' → S.Mirrors (f a)) :
    S.Mirrors (x >>= f) := by
  refine ⟨hx.respects.bind hreaches, fun {s t} h hwithin ↦ ?_⟩
  have hmid : S.within (exec x t).2 := S.within_of_reaches (Respects.after hreaches x t) hwithin
  obtain ⟨hresult, hbeside⟩ := hx.same h hmid
  rcases hs : exec x s with ⟨r, s'⟩
  rcases ht : exec x t with ⟨r', t'⟩
  rw [hs, ht] at hresult hbeside
  rw [ht] at hmid
  obtain rfl : r = r' := hresult
  cases r with
  | error fault =>
    rw [exec_bind_of_error hs, exec_bind_of_error ht]
    exact ⟨rfl, hbeside⟩
  | ok a =>
    rw [exec_bind_of_ok ht] at hwithin
    rw [exec_bind_of_ok hs, exec_bind_of_ok ht]
    exact (hf ht hmid).same hbeside hwithin

theorem bind {x : Work σ α} {f : α → Work σ β} (hx : S.Mirrors x) (hf : ∀ a, S.Mirrors (f a)) :
    S.Mirrors (x >>= f) :=
  hx.bind_of (fun a ↦ (hf a).respects) fun _ _ ↦ hf _

/-- What follows from reading the state is the same on both sides. -/
theorem get_bind {f : σ → Work σ α} (hsame : ∀ {s t}, S.beside s t → f s = f t)
    (hf : ∀ s, S.Mirrors (f s)) : S.Mirrors (get >>= f) where
  respects s := (hf s).respects s
  same {s t} h hwithin := by
    rw [exec_get_bind] at hwithin ⊢
    rw [exec_get_bind, hsame h]
    exact (hf t).same h hwithin

theorem mapM {f : α → Work σ β} (hf : ∀ a, S.Mirrors (f a)) (as : List α) :
    S.Mirrors (as.mapM f) := by
  induction as with
  | nil =>
    rw [List.mapM_nil]
    exact pure _
  | cons a as ih =>
    rw [List.mapM_cons]
    exact (hf a).bind fun b ↦ ih.bind fun bs ↦ pure _

theorem recover {x : Work σ α} {f : Fault → Work σ α} (hx : S.Mirrors x)
    (hf : ∀ fault, S.Mirrors (f fault)) : S.Mirrors (tryCatch x f) := by
  have hcatch (s : σ) : S.reaches (exec x s).2 (exec (tryCatch x f) s).2 := by
    rw [exec_catch]
    rcases exec x s with ⟨fault | a, s'⟩
    · exact (hf fault).respects s'
    · exact refl s'
  refine ⟨fun s ↦ IsTrans.trans _ _ _ (hx.respects s) (hcatch s), fun {s t} h hwithin ↦ ?_⟩
  obtain ⟨hresult, hbeside⟩ := hx.same h (S.within_of_reaches (hcatch t) hwithin)
  rw [exec_catch] at hwithin ⊢
  rw [exec_catch]
  rcases hs : exec x s with ⟨r, s'⟩
  rcases ht : exec x t with ⟨r', t'⟩
  rw [hs, ht] at hresult hbeside
  obtain rfl : r = r' := hresult
  rw [ht] at hwithin
  cases r with
  | error fault => exact (hf fault).same hbeside hwithin
  | ok a => exact ⟨rfl, hbeside⟩

end Mirrors

end Sides

end ApiClient.Work

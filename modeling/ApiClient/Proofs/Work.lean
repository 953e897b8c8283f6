import ApiClient.Fault
import Mathlib.Order.Defs.Unbundled
import Mathlib.Tactic.Common

/-!
# Work that may end in a fault

The generator works on a state and may stop with a fault; what it did to the state before it
stopped remains. A piece of work is understood by carrying it out, which takes a state to a result
and a new state. Work in several steps is carried out step by step, and a relation between states
that each step respects is respected by the whole.
-/

namespace ApiClient

abbrev Work (σ α : Type) := ExceptT Fault (StateM σ) α

namespace Work

variable {σ α β : Type}

/-- Carries out a piece of work: its result, and the state that it leaves. -/
def exec (x : Work σ α) (s : σ) : Except Fault α × σ := x.run.run s

/-! ## Carrying out -/

theorem exec_pure (a : α) (s : σ) : exec (pure a : Work σ α) s = (.ok a, s) := rfl

theorem exec_throw (fault : Fault) (s : σ) :
    exec (throw fault : Work σ α) s = (.error fault, s) := rfl

theorem exec_lift (e : Except Fault α) (s : σ) : exec (liftM e : Work σ α) s = (e, s) := rfl

theorem exec_bind (x : Work σ α) (f : α → Work σ β) (s : σ) :
    exec (x >>= f) s = match exec x s with
      | (.ok a, t) => exec (f a) t
      | (.error fault, t) => (.error fault, t) := by
  unfold exec
  rw [ExceptT.run_bind, StateT.run_bind]
  rcases x.run.run s with ⟨_ | _, t⟩ <;> rfl

theorem exec_map (f : α → β) (x : Work σ α) (s : σ) :
    exec (f <$> x) s = ((exec x s).1.map f, (exec x s).2) := by
  rw [map_eq_pure_bind, exec_bind]
  rcases exec x s with ⟨_ | _, t⟩ <;> rfl

theorem exec_catch (x : Work σ α) (f : Fault → Work σ α) (s : σ) :
    exec (tryCatch x f) s = match exec x s with
      | (.ok a, t) => (.ok a, t)
      | (.error fault, t) => exec (f fault) t := by
  unfold exec
  rw [ExceptT.run_tryCatch, StateT.run_bind]
  rcases x.run.run s with ⟨_ | _, t⟩ <;> rfl

/-- Work in two steps that succeeds has succeeded in both. -/
theorem of_exec_bind {x : Work σ α} {f : α → Work σ β} {s t : σ} {b : β}
    (h : exec (x >>= f) s = (.ok b, t)) :
    ∃ a u, exec x s = (.ok a, u) ∧ exec (f a) u = (.ok b, t) := by
  rw [exec_bind] at h
  rcases hx : exec x s with ⟨_ | a, u⟩
  · simp [hx] at h
  · exact ⟨a, u, rfl, by simpa [hx] using h⟩

theorem exec_bind_of_ok {x : Work σ α} {a : α} {s u : σ} (h : exec x s = (.ok a, u))
    (f : α → Work σ β) : exec (x >>= f) s = exec (f a) u := by
  rw [exec_bind, h]

theorem exec_bind_of_error {x : Work σ α} {fault : Fault} {s u : σ}
    (h : exec x s = (.error fault, u)) (f : α → Work σ β) :
    exec (x >>= f) s = (.error fault, u) := by
  rw [exec_bind, h]

/-- A step without a state that succeeds leaves the state to the next one. -/
theorem of_exec_lift_bind {e : Except Fault α} {f : α → Work σ β} {s t : σ} {b : β}
    (h : exec (liftM e >>= f) s = (.ok b, t)) : ∃ a, e = .ok a ∧ exec (f a) s = (.ok b, t) := by
  rw [exec_bind, exec_lift] at h
  cases e with
  | error fault => cases h
  | ok a => exact ⟨a, rfl, h⟩

/-- What follows a step without a state counts only for the result that the step has. -/
theorem lift_bind_congr {e : Except Fault α} {f g : α → Work σ β}
    (h : ∀ a, e = .ok a → f a = g a) :
    ((liftM e : Work σ α) >>= f) = (liftM e : Work σ α) >>= g := by
  cases e with
  | error fault => rfl
  | ok a =>
    change f a = g a
    exact h a rfl

theorem exec_get_bind (f : σ → Work σ β) (s : σ) : exec (get >>= f) s = exec (f s) s := rfl

theorem exec_modify_bind (g : σ → σ) (f : Unit → Work σ β) (s : σ) :
    exec (modify g >>= f) s = exec (f ()) (g s) := rfl

theorem exec_lift_eq_ok {e : Except Fault α} {s t : σ} {a : α} :
    exec (liftM e : Work σ α) s = (.ok a, t) ↔ e = .ok a ∧ t = s := by
  rw [exec_lift, Prod.mk.injEq, eq_comm (a := s)]

theorem exec_pure_eq_ok {a b : α} {s t : σ} :
    exec (pure a : Work σ α) s = (.ok b, t) ↔ b = a ∧ t = s := by
  rw [exec_pure, Prod.mk.injEq, Except.ok.injEq, eq_comm (a := a), eq_comm (a := s)]

/-- Work whose result can be computed has one. -/
theorem exists_exec_of_map {x : Work σ α} {s : σ} {f : α → β} {b : β}
    (h : (exec x s).1.toOption.map f = some b) : ∃ a t, exec x s = (.ok a, t) ∧ f a = b := by
  rcases hx : exec x s with ⟨_ | a, t⟩
  · simp [hx, Except.toOption] at h
  · exact ⟨a, t, rfl, by simpa [hx, Except.toOption] using h⟩

/-! ## Relations between the states before and after -/

/-- However it ends, the work leads from this state to one that it is related to. -/
def Leads (R : σ → σ → Prop) (x : Work σ α) (s : σ) : Prop := R s (exec x s).2

/-- The work leads from every state to one that it is related to. -/
def Respects (R : σ → σ → Prop) (x : Work σ α) : Prop := ∀ s, Leads R x s

section

variable {R : σ → σ → Prop}

theorem Leads.of_exec {x : Work σ α} {s t : σ} (h : Leads R x s) {result : Except Fault α}
    (hx : exec x s = (result, t)) : R s t := by
  unfold Leads at h
  rwa [hx] at h

theorem Leads.mono {R' : σ → σ → Prop} (hR : ∀ s t, R s t → R' s t) {x : Work σ α} {s : σ}
    (h : Leads R x s) : Leads R' x s := hR _ _ h

theorem Respects.of_exec {x : Work σ α} (h : Respects R x) {s t : σ} {result : Except Fault α}
    (hx : exec x s = (result, t)) : R s t := (h s).of_exec hx

theorem Respects.modify {f : σ → σ} (h : ∀ s, R s (f s)) : Respects R (modify f : Work σ Unit) := h

variable [IsPreorder σ R]

theorem Respects.pure (a : α) : Respects R (Pure.pure a : Work σ α) := fun s ↦ refl s

theorem Respects.throw (fault : Fault) : Respects R (throw fault : Work σ α) := fun s ↦ refl s

theorem Respects.lift (e : Except Fault α) : Respects R (liftM e : Work σ α) := fun s ↦ refl s

theorem Respects.get : Respects R (MonadState.get : Work σ σ) := fun s ↦ refl s

/-- A second step counts only from the states in which the first one leaves its result. -/
theorem Leads.bind {x : Work σ α} {f : α → Work σ β} {s : σ} (hx : Leads R x s)
    (hf : ∀ a t, exec x s = (.ok a, t) → Leads R (f a) t) : Leads R (x >>= f) s := by
  unfold Leads
  rcases hs : exec x s with ⟨fault | a, t⟩
  · rw [exec_bind_of_error hs]
    exact hx.of_exec hs
  · rw [exec_bind_of_ok hs]
    exact IsTrans.trans _ _ _ (hx.of_exec hs) (hf a t hs)

theorem Respects.bind {x : Work σ α} {f : α → Work σ β} (hx : Respects R x)
    (hf : ∀ a, Respects R (f a)) : Respects R (x >>= f) :=
  fun s ↦ (hx s).bind fun a t _ ↦ hf a t

theorem Respects.mapM {f : α → Work σ β} (hf : ∀ a, Respects R (f a)) (as : List α) :
    Respects R (as.mapM f) := by
  induction as with
  | nil =>
    rw [List.mapM_nil]
    exact Respects.pure _
  | cons a as ih =>
    rw [List.mapM_cons]
    exact (hf a).bind fun b ↦ ih.bind fun bs ↦ Respects.pure _

/-- What follows a step relates the state after the step to the state after the whole. -/
theorem Respects.after {f : α → Work σ β} (hf : ∀ a, Respects R (f a)) (x : Work σ α) (s : σ) :
    R (exec x s).2 (exec (x >>= f) s).2 := by
  rcases hs : exec x s with ⟨fault | a, t⟩
  · rw [exec_bind_of_error hs]
    exact refl t
  · rw [exec_bind_of_ok hs]
    exact hf a t

theorem Leads.catch {x : Work σ α} {f : Fault → Work σ α} {s : σ} (hx : Leads R x s)
    (hf : ∀ fault t, exec x s = (.error fault, t) → Leads R (f fault) t) :
    Leads R (tryCatch x f) s := by
  unfold Leads
  rw [exec_catch]
  rcases hs : exec x s with ⟨fault | a, t⟩
  · exact IsTrans.trans _ _ _ (hx.of_exec hs) (hf fault t hs)
  · exact hx.of_exec hs

end

/-! ## What work ensures -/

/-- However it ends, the work leaves a fit state that this one is related to; and if it has a
result, that is as it should be. -/
structure Ensures (fit : σ → Prop) (R : σ → σ → Prop) (x : Work σ α) (s : σ) (Q : α → σ → Prop) :
    Prop where
  fit : fit (exec x s).2
  rel : R s (exec x s).2
  result : ∀ {a t}, exec x s = (.ok a, t) → Q a t

namespace Ensures

variable {fit : σ → Prop} {R : σ → σ → Prop} {x : Work σ α} {s : σ} {Q Q' : α → σ → Prop}

theorem mono (h : Ensures fit R x s Q) (hQ : ∀ a t, Q a t → Q' a t) : Ensures fit R x s Q' where
  fit := h.fit
  rel := h.rel
  result hx := hQ _ _ (h.result hx)

theorem of_exec (h : Ensures fit R x s Q) {a : α} {t : σ} (hx : exec x s = (.ok a, t)) :
    fit t ∧ R s t ∧ Q a t := by
  obtain ⟨hfit, hrel, hresult⟩ := h
  rw [hx] at hfit hrel
  exact ⟨hfit, hrel, hresult hx⟩

theorem modify {f : σ → σ} {Q : Unit → σ → Prop} (hfit : fit (f s)) (hrel : R s (f s))
    (h : Q () (f s)) : Ensures fit R (modify f : Work σ Unit) s Q where
  fit := hfit
  rel := hrel
  result hx := by
    cases hx
    exact h

theorem modifyGet {f : σ → α × σ} (hfit : fit (f s).2) (hrel : R s (f s).2)
    (h : Q (f s).1 (f s).2) : Ensures fit R (modifyGet f : Work σ α) s Q where
  fit := hfit
  rel := hrel
  result hx := by
    cases hx
    exact h

/-- Reading the state leaves it to the next step. -/
theorem get_bind {f : σ → Work σ β} {Q : β → σ → Prop} (h : Ensures fit R (f s) s Q) :
    Ensures fit R (get >>= f) s Q where
  fit := h.fit
  rel := h.rel
  result hx := h.result hx

variable [IsPreorder σ R]

theorem pure {a : α} (hs : fit s) (h : Q a s) : Ensures fit R (Pure.pure a : Work σ α) s Q where
  fit := hs
  rel := refl s
  result hx := by
    cases hx
    exact h

theorem throw (fault : Fault) (hs : fit s) : Ensures fit R (throw fault : Work σ α) s Q where
  fit := hs
  rel := refl s
  result hx := by cases hx

theorem lift {e : Except Fault α} (hs : fit s) (h : ∀ a, e = .ok a → Q a s) :
    Ensures fit R (liftM e : Work σ α) s Q where
  fit := hs
  rel := refl s
  result hx := by
    obtain ⟨ha, rfl⟩ := exec_lift_eq_ok.1 hx
    exact h _ ha

/-- A second step starts in a fit state with what the first one ensures. -/
theorem bind {f : α → Work σ β} {Q' : β → σ → Prop} (hx : Ensures fit R x s Q)
    (hf : ∀ a t, fit t → R s t → Q a t → Ensures fit R (f a) t Q') :
    Ensures fit R (x >>= f) s Q' := by
  rcases hs : exec x s with ⟨fault | a, t⟩
  · obtain ⟨hfit, hrel, -⟩ := hx
    rw [hs] at hfit hrel
    have hexec := exec_bind_of_error hs f
    refine ⟨by rwa [hexec], by rwa [hexec], fun hresult ↦ ?_⟩
    rw [hexec] at hresult
    cases hresult
  · obtain ⟨hfit, hrel, hresult⟩ := hx.of_exec hs
    have hrest := hf a t hfit hrel hresult
    have hexec := exec_bind_of_ok hs f
    refine ⟨hexec ▸ hrest.fit, hexec ▸ IsTrans.trans _ _ _ hrel hrest.rel, fun hend ↦ ?_⟩
    exact hrest.result (hexec ▸ hend)

/-- A step without a state leaves the state to the next one. -/
theorem lift_bind {e : Except Fault α} {f : α → Work σ β} {Q : β → σ → Prop} (hs : fit s)
    (hf : ∀ a, e = .ok a → Ensures fit R (f a) s Q) : Ensures fit R (liftM e >>= f) s Q := by
  cases e with
  | error fault => exact throw fault hs
  | ok a => exact hf a rfl

/-- What catches a fault starts in a fit state. -/
theorem recover {f : Fault → Work σ α} (hx : Ensures fit R x s Q)
    (hf : ∀ fault t, fit t → R s t → Ensures fit R (f fault) t Q) :
    Ensures fit R (tryCatch x f) s Q := by
  have hexec := exec_catch x f s
  rcases hs : exec x s with ⟨fault | a, t⟩
  · obtain ⟨hfit, hrel, -⟩ := hx
    rw [hs] at hfit hrel hexec
    have hrest := hf fault t hfit hrel
    refine ⟨hexec ▸ hrest.fit, hexec ▸ IsTrans.trans _ _ _ hrel hrest.rel, fun hend ↦ ?_⟩
    exact hrest.result (hexec.symm.trans hend)
  · obtain ⟨hfit, hrel, hresult⟩ := hx.of_exec hs
    rw [hs] at hexec
    refine ⟨hexec ▸ hfit, hexec ▸ hrel, fun hend ↦ ?_⟩
    rw [hexec] at hend
    cases hend
    exact hresult

theorem mapM {β : Type} {f : α → Work σ β} {Q : α → β → Prop} {as : List α} {s : σ} (hs : fit s)
    (hf : ∀ a ∈ as, ∀ t, fit t → Ensures fit R (f a) t fun b _ ↦ Q a b) :
    Ensures fit R (as.mapM f) s fun bs _ ↦ ∀ b ∈ bs, ∃ a ∈ as, Q a b := by
  induction as generalizing s with
  | nil =>
    rw [List.mapM_nil]
    exact pure hs fun b hb ↦ absurd hb List.not_mem_nil
  | cons a as ih =>
    obtain ⟨ha, has⟩ := List.forall_mem_cons.1 hf
    rw [List.mapM_cons]
    apply (ha s hs).bind
    intro b t ht _ hb
    apply (ih ht has).bind
    intro bs u hu _ hbs
    exact pure hu (List.forall_mem_cons.2 ⟨⟨a, List.mem_cons_self, hb⟩, fun b' hb' ↦
      (hbs b' hb').imp fun _ h ↦ ⟨List.mem_cons_of_mem _ h.1, h.2⟩⟩)

end Ensures

/-! ## Faults that work may end in -/

/-- From this state the work has a result, or it ends in an allowed fault. -/
def FailsOnly (allowed : Fault → Prop) (x : Work σ α) (s : σ) : Prop :=
  ∀ fault t, exec x s = (.error fault, t) → allowed fault

section

variable {allowed : Fault → Prop}

theorem failsOnly_of_exec {x : Work σ α} {s t : σ} {a : α} (h : exec x s = (.ok a, t)) :
    FailsOnly allowed x s := by
  intro fault u hfault
  cases h.symm.trans hfault

theorem failsOnly_lift {e : Except Fault α} (h : ∀ fault, e = .error fault → allowed fault)
    (s : σ) : FailsOnly allowed (liftM e : Work σ α) s := by
  intro fault t hexec
  rw [exec_lift, Prod.mk.injEq] at hexec
  exact h fault hexec.1

/-- A second step counts only from the states in which the first one leaves its result. -/
theorem FailsOnly.bind {x : Work σ α} {f : α → Work σ β} {s : σ} (hx : FailsOnly allowed x s)
    (hf : ∀ a t, exec x s = (.ok a, t) → FailsOnly allowed (f a) t) :
    FailsOnly allowed (x >>= f) s := by
  intro fault t hexec
  rcases hstep : exec x s with ⟨fault' | a, u⟩
  · rw [exec_bind_of_error hstep, Prod.mk.injEq, Except.error.injEq] at hexec
    exact hexec.1 ▸ hx fault' u hstep
  · rw [exec_bind_of_ok hstep] at hexec
    exact hf a u hstep fault t hexec

/-- A step without a state that succeeds leaves its result to the next one. -/
theorem FailsOnly.lift_bind {e : Except Fault α} {f : α → Work σ β} {s : σ} {a : α} (he : e = .ok a)
    (hf : FailsOnly allowed (f a) s) : FailsOnly allowed ((liftM e : Work σ α) >>= f) s := by
  subst he
  exact hf

theorem FailsOnly.mono {allowed' : Fault → Prop} {x : Work σ α} {s : σ}
    (hallowed : ∀ fault, allowed fault → allowed' fault) (h : FailsOnly allowed x s) :
    FailsOnly allowed' x s :=
  fun fault t hexec ↦ hallowed fault (h fault t hexec)

end

/-! ## Loops over lists -/

/-- A loop over a list, each of whose rounds leads from one state to another, starts in a state
with some items and comes to a state with some of them left. -/
inductive Meets (round : α → σ → σ → Prop) : σ → List α → σ → List α → Prop
  | here {s as} : Meets round s as s as
  | later {s s' t a as bs} : round a s s' → Meets round s' as t bs → Meets round s (a :: as) t bs

theorem Meets.rel {round : α → σ → σ → Prop} {R : σ → σ → Prop} [IsPreorder σ R]
    (hround : ∀ a s s', round a s s' → R s s') {s t : σ} {as bs : List α}
    (h : Meets round s as t bs) : R s t := by
  induction h with
  | here => exact refl _
  | later hfirst _ ih => exact IsTrans.trans _ _ _ (hround _ _ _ hfirst) ih

end Work

end ApiClient

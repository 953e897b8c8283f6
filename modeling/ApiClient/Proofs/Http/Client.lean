import ApiClient.Http.Client

/-!
# Clients as folds of their middlewares

A client finds its next middleware by position. What it does is the fold of its middlewares over
its transport: each middleware is handed the fold of those after it, and calls it as often and
with whatever requests it likes. As the effects are those of an arbitrary monad, equal handlers
have the same replies and failures, the same effects in the same order, and call the transport
the same times with the same addresses and requests.
-/

namespace ApiClient.Http.Client

variable {m : Type → Type}

/-- A middleware in front of a handler. -/
def inFront (middleware : Middleware m) (next : Handler m) : Handler m := fun r ↦ middleware r next

theorem stage_of_lt (c : Client m) {i : Nat} (h : i < c.middlewares.size) :
    c.stage i = inFront c.middlewares[i] (c.stage (i + 1)) := by
  funext r
  rw [stage, dif_pos h, inFront]

theorem stage_of_le (c : Client m) {i : Nat} (h : c.middlewares.size ≤ i) :
    c.stage i = c.terminal := by
  funext r
  rw [stage, dif_neg (Nat.not_lt.mpr h)]

/-- A stage runs the middlewares from its position on, whichever requests they are handed. -/
theorem stage_eq_foldr_drop (c : Client m) (i : Nat) :
    c.stage i = (c.middlewares.toList.drop i).foldr inFront c.terminal := by
  -- The position counts upwards, so the induction is on what is left of the middlewares.
  induction hleft : c.middlewares.size - i generalizing i with
  | zero =>
    have hle : c.middlewares.size ≤ i := by omega
    rw [stage_of_le c hle, List.drop_eq_nil_of_le (by simpa using hle), List.foldr_nil]
  | succ left ih =>
    have hlt : i < c.middlewares.size := by omega
    rw [stage_of_lt c hlt, List.drop_eq_getElem_cons (by simpa using hlt), List.foldr_cons,
      Array.getElem_toList, ih (i + 1) (by omega)]

theorem fetch_eq (c : Client m) :
    c.fetch = c.middlewares.toList.foldr inFront c.terminal :=
  stage_eq_foldr_drop c 0

/-- A client is the fold of its middlewares over its transport. So a client with further
middlewares is one whose transport is a client with those. Without anything to make of the reply,
the reply or the failure of the fold comes back as it is. -/
theorem fetch_eq_foldr (c : Client m) :
    c.fetch = c.middlewares.toList.foldr (fun middleware next r ↦ middleware r next)
      (fun r ↦ c.transport (r.address c.basePath) r) ∧
    (∀ outer inner : Array (Middleware m),
      fetch { c with middlewares := outer ++ inner } =
        fetch { c with
          middlewares := outer
          transport := fun _ ↦ fetch { c with middlewares := inner } }) ∧
    ∀ [Monad m] (r : Request),
      c.fetchWith r (fun _ reply ↦ .ok reply) = do
        let passage ← c.middlewares.toList.foldr (fun middleware next r ↦ middleware r next)
          (fun r ↦ c.transport (r.address c.basePath) r) r
        return (passage.request, passage.result) := by
  refine ⟨fetch_eq c, fun outer inner ↦ ?_, fun r ↦ ?_⟩
  · have hinner : terminal { c with
        middlewares := outer
        transport := fun _ ↦ fetch { c with middlewares := inner } } =
        inner.toList.foldr inFront c.terminal :=
      fetch_eq { c with middlewares := inner }
    rw [fetch_eq, fetch_eq, hinner, Array.toList_append, List.foldr_append]
    rfl
  · have hresult (result : Except Failure Reply) :
        (result >>= fun reply ↦ .ok reply) = result := bind_pure result
    simp only [fetchWith, fetch_eq, hresult]
    rfl

end ApiClient.Http.Client

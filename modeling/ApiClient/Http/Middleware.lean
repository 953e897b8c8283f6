import ApiClient.Http.Client

/-!
# Middlewares

The usual middlewares: they edit a request, answer or refuse it, send another one in its place,
send it again, or turn replies into failures and failures into replies.
-/

namespace ApiClient.Http.Middleware

variable {m : Type → Type} [Monad m]

/-- Makes edits in order. The first that fails is told together with the request that it met. -/
def applyEdits : List (Request → Except Fault Request) → Request → Request × Option Fault
  | [], r => (r, none)
  | edit :: edits, r =>
    match edit r with
    | .ok r' => applyEdits edits r'
    | .error f => (r, some f)

def editing (edits : List (Request → Except Fault Request)) : Middleware m := fun r next =>
  match applyEdits edits r with
  | (r', none) => next r'
  | (r', some f) => return ⟨r', .error (.fault f)⟩

def answering (reply : Reply) : Middleware m := fun r _ => return ⟨r, .ok reply⟩

def failing (f : Failure) : Middleware m := fun r _ => return ⟨r, .error f⟩

/-- Passes on another request and leaves its own as it was. -/
def replacing (other : Request) : Middleware m := fun r next => do
  return ⟨r, (← next other).result⟩

/-- Passes the request on a number of times, until it fails, and keeps the last reply. -/
def repeating : Nat → Middleware m
  | 0 => failing (.fault .noSuchPart)
  | 1 => fun r next => next r
  | n + 2 => fun r next => do
    let p ← next r
    match p.result with
    | .ok _ => repeating (n + 1) p.request next
    | .error _ => return p

/-- Turns a reply with an error status into a failure. -/
def guarding : Middleware m := fun r next => do
  let p ← next r
  match p.result with
  | .ok reply =>
    if 400 ≤ reply.status then return ⟨p.request, .error (.ofReply p.request reply)⟩
    return p
  | .error _ => return p

/-- Answers a failure. -/
def recovering (answer : Failure → m Reply) : Middleware m := fun r next => do
  let p ← next r
  match p.result with
  | .ok _ => return p
  | .error f => return ⟨p.request, .ok (← answer f)⟩

end ApiClient.Http.Middleware

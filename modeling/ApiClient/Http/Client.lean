import ApiClient.Http.Outgoing

/-!
# Clients

A client passes a request through its middlewares, in order, and then to its transport. Each of
them may change the request, answer it itself, or pass on the same or another request as often as
it likes. Changes are seen by whoever passed the request on: what comes back is the request as it
was left, together with the reply or the failure.

The effects of middlewares and transports are those of an arbitrary monad.
-/

namespace ApiClient.Http

/-- A request as it was left, and what became of it. -/
structure Passage where
  request : Request
  result : Except Failure Reply

/-- Whatever takes a request to its end. -/
abbrev Handler (m : Type → Type) := Request → m Passage

/-- A handler that may make use of the handler after it. -/
abbrev Middleware (m : Type → Type) := Request → Handler m → m Passage

/-- Takes a request to an address. -/
abbrev Transport (m : Type → Type) := String → Request → m Passage

structure Client (m : Type → Type) where
  basePath : String := ""
  transport : Transport m
  middlewares : Array (Middleware m) := #[]
  /-- Applied to every document that is decoded. -/
  hook : Value → Except Failure Value := .ok

namespace Client

variable {m : Type → Type}

/-- The transport, at the address that the request has when it gets there. -/
def terminal (c : Client m) : Handler m := fun r => c.transport (r.address c.basePath) r

/-- The handler that begins with the middleware at a position, or is the transport after the
last of them. -/
def stage (c : Client m) (i : Nat) : Handler m := fun r =>
  if h : i < c.middlewares.size then c.middlewares[i] r fun next => c.stage (i + 1) next
  else c.terminal r
termination_by c.middlewares.size - i

/-- Takes a request through all middlewares to the transport. -/
def fetch (c : Client m) : Handler m := c.stage 0

/-- Takes a request to its end and makes something of the reply. -/
def fetchWith [Monad m] {α : Type} (c : Client m) (r : Request)
    (handle : Request → Reply → Except Failure α) : m (Request × Except Failure α) := do
  let p ← c.fetch r
  return (p.request, p.result >>= handle p.request)

/-- The document in a reply, as the hook leaves it. -/
def decode (c : Client m) (reply : Reply) : Except Failure Value := do
  c.hook (← reply.document.mapError .undecodable)

end Client

/-- The transport that sends over a connection. A body that cannot be sent fails before
anything is sent. -/
def Transport.over {m : Type → Type} [Monad m] (send : Outgoing → m (Except Failure Reply)) :
    Transport m := fun address r =>
  match Outgoing.ofRequest address r with
  | .ok o => return ⟨r, ← send o⟩
  | .error f => return ⟨r, .error f⟩

end ApiClient.Http

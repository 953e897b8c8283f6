/-!
# Lifetime of a connection

A client sends over a transport, and a transport over a connection. Each closes what it made
itself; what it was given is closed by the giver.
-/

namespace ApiClient.Http

structure Lifetime where
  clientMadeTransport : Bool
  transportMadeConnection : Bool
  closed : Bool := false
  deriving DecidableEq

namespace Lifetime

/-- A client that makes its own transport. -/
def ofClient : Lifetime := { clientMadeTransport := true, transportMadeConnection := true }

/-- A client that is given a transport, which makes its own connection. -/
def ofTransport : Lifetime := { clientMadeTransport := false, transportMadeConnection := true }

/-- A client that is given a transport, which is given its connection. -/
def given : Lifetime := { clientMadeTransport := false, transportMadeConnection := false }

def closeTransport (l : Lifetime) : Lifetime :=
  { l with closed := l.closed || l.transportMadeConnection }

def closeClient (l : Lifetime) : Lifetime :=
  if l.clientMadeTransport then l.closeTransport else l

end Lifetime

end ApiClient.Http

import Skyauth.Request
import Skyauth.Tower

/-!
# A client and the service it calls

The composition of `send_dpop_request` with an `OAuthAuthService`: every request of the client is a
call of the service, and the response of the call is the response the client gets. Client and server
read one clock, and no other client calls the service meanwhile.
-/

namespace Skyauth

/-- Other tasks leave the shared state alone. -/
def Interference.idle (N : Type) : Interference N := ⟨id, id, id⟩

/-- An in-memory nonce source with the random bytes of its next issues. -/
structure DrawingSource where
  source : InMemoryServerNonceSource
  draws : Nat → List UInt8
  drawn : Nat

/-- `InMemoryServerNonceSource` as a nonce source, at one reading of the clock. -/
def inMemoryNonceSource (clock : SystemTime) : NonceSource DrawingSource where
  generateNonce s :=
    let (r, source) := s.source.generateNonce clock (s.draws s.drawn)
    (r, { s with source := source, drawn := s.drawn + 1 })
  verifyNonce s nonce :=
    let (valid, source) := s.source.verifyNonce nonce clock
    (valid, { s with source := source })

/-- The service as the client's world: its shared state and the requests its inner service got. -/
structure ServiceWorld (N : Type) where
  shared : SharedState N
  invocations : List (Request (Option (List UInt8)))

/-- A place where a service runs: the `Host` header of connections to it and the request URI that it
    sees for a URL of the client. -/
structure Endpoint where
  host : String
  uriOf : String → Uri

/-- The request of the client as the service gets it. -/
def Endpoint.receive (at_ : Endpoint) (request : ClientRequest) : Request (Option (List UInt8)) where
  method := request.method
  uri := at_.uriOf request.url
  headers := request.headers
  extensions := { session := none, user := none }
  body := request.body

/-- The network of a client that talks to a service. A failure of the inner service closes the
    connection. -/
def serviceNetwork {N E V : Type} (X : Crates)
    (svc : OAuthAuthService N (Option (List UInt8)) WireBody E V) (at_ : Endpoint)
    (clock : SystemTime) : Network (ServiceWorld N) where
  buildPinnedClient w _ := (.ok at_.host, w)
  send w request :=
    let o := svc.call X (Interference.idle N) w.shared (at_.receive request) clock clock
    (match o.response with
      | .ok response => .ok response
      | .error _ => .error "connection closed before message completed",
      { shared := o.shared, invocations := w.invocations ++ o.invocations })

end Skyauth

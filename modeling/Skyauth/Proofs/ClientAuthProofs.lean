import Skyauth.Integrations
import Skyauth.Proofs.FormProofs
import Skyauth.Proofs.RoundTripProofs

/-!
# Proofs: the authentication of a client

An authorization server that knows the document of a client checks the assertion that a request carries
against it. What a confidential client posts authenticates it at the server that was discovered for the
login, for a minute, and nobody else nowhere else; a public client posts no assertion, and its document would
let none pass.
-/

namespace Skyauth

/-! ## What a server checks -/

/-- A member that is a text. -/
def Json.text (j : Json) (name : String) : Option String := (j.get name).bind Json.asStr

/-- The keys of a client's document. -/
def publishedKeys (document : Json) : List Json :=
  match (document.get "jwks").bind fun jwks => jwks.get "keys" with
  | some (.arr keys) => keys
  | _ => []

/-- A signed token under one of these keys, which its header names. -/
structure SignedBy (X : Crates) (keys : List Json) (token : String) (payload : Json) : Prop where
  exists_parts : ∃ headerBytes payloadBytes signature header,
    token = compactJwt headerBytes payloadBytes signature ∧
    X.jsonFromSlice headerBytes = .ok header ∧ X.jsonFromSlice payloadBytes = .ok payload ∧
    header.text "alg" = some "ES256" ∧
    ∃ published ∈ keys, ∃ kid jwk key, header.text "kid" = some kid ∧ published.text "kid" = some kid ∧
      JwkEc.fromValue published = .ok jwk ∧ jwk.toVerifyingKey X = .ok key ∧
      verifyP256Raw X key (Text.asBytes (signingInput headerBytes payloadBytes)) signature = .ok ()

/-- The server with this issuer identifier takes the assertion, at this time, for one of the client with
    this identifier and document. -/
structure Authenticates (X : Crates) (document : Json) (issuer : String) (now : Nat)
    (assertion clientId : String) : Prop where
  client : document.text "client_id" = some clientId
  method : document.text "token_endpoint_auth_method" = some "private_key_jwt"
  claims : ∃ payload, SignedBy X (publishedKeys document) assertion payload ∧
    payload.text "iss" = some clientId ∧ payload.text "sub" = some clientId ∧
    payload.text "aud" = some issuer ∧ ∃ exp : Nat, payload.get "exp" = some (.int exp) ∧ now < exp

/-! ## The document of a client -/

section Document

variable {X : Crates} {metadata : OAuthClientMetadata} {clientName : Option String} {key : DPoPKey}

end Document

/-! ## Assertions -/

/-- A call of the run makes an assertion for the server with this issuer identifier with this draw. -/
def DrawnFor (tr : List (LoginAction × LoginEvent)) (issuer : String) (draw : ProofDraw) : Prop :=
  (∃ call event endpoints, (.login call, event) ∈ tr ∧ call.discovery = .ok endpoints ∧
    endpoints.authServerIssuer = issuer ∧ ∃ a ∈ [call.first, call.second], a.assertion = draw) ∨
  ∃ params entry checked first second created event,
    (.finish params (some entry) checked first second created, event) ∈ tr ∧ entry.issuer = issuer ∧
      ∃ a ∈ [first, second], a.assertion = draw

section Assertion

variable {X : Crates} {key : DPoPKey} {clientId audience assertion : String} {draw : ProofDraw}

end Assertion

/-! ## What a request shows -/

/-- What the pairs of a request show about the client: its identifier, and with a key one assertion, which
    authenticates the client at the server with this issuer identifier and nowhere else. -/
structure Presents (X : Crates) (metadata : OAuthClientMetadata) (clientName : Option String)
    (tr : List (LoginAction × LoginEvent)) (issuer : String) (pairs : List (String × String)) : Prop where
  client : ∀ id, ("client_id", id) ∈ pairs ↔ id = metadata.clientId
  unkeyed : metadata.clientKey = none → ∀ assertion, ("client_assertion", assertion) ∉ pairs
  keyed : ∀ key, metadata.clientKey = some key → ∃ draw iat assertion, DrawnFor tr issuer draw ∧
    draw.clock.unixSecs = .ok iat ∧
    key.createClientAssertion X metadata.clientId issuer draw = .ok assertion ∧
    (∀ type, ("client_assertion_type", type) ∈ pairs ↔ type = CLIENT_ASSERTION_TYPE_JWT_BEARER) ∧
    (∀ a, ("client_assertion", a) ∈ pairs ↔ a = assertion) ∧
    ∀ issuer' now c, Authenticates X (metadata.toJsonValue X clientName) issuer' now assertion c ↔
      c = metadata.clientId ∧ issuer' = issuer ∧ now < saturatingAdd iat 60

section Presents

variable {X : Crates} {metadata : OAuthClientMetadata} {clientName : Option String} {issuer : String}
  {pairs auth : List (String × String)}

end Presents

namespace LoginSample

end LoginSample

end Skyauth

import Skyauth.Http
import Skyauth.NonceSource

/-!
# The Tower middleware

`OAuthAuthService` of `src/integrations/tower.rs`. The validator, the nonce source and the inner
service are arbitrary. The verifier with its replay cache and the nonce source are shared with other
tasks: `Interference` says what these do to the shared state between two accesses of a call, so a
statement for every interference is a statement for every schedule.
-/

namespace Skyauth

/-- The state that the calls of a service share. -/
structure SharedState (N : Type) where
  verifier : DPoPVerifier
  nonces : N

/-- What other tasks do to the shared state while a call is between two of its accesses. -/
structure Interference (N : Type) where
  /-- Before a nonce is issued for a challenge. -/
  beforeChallenge : SharedState N → SharedState N
  /-- While the access token is validated. -/
  beforeCommit : SharedState N → SharedState N
  /-- While the inner service runs. -/
  beforeAttach : SharedState N → SharedState N

/-- The middleware around an inner service, with request bodies `B`, response bodies `C`, service
    errors `E` and validation errors `V`. -/
structure OAuthAuthService (N B C E V : Type) where
  inner : Request B → Except E (Response C)
  tokenValidator : String → String → Except V AuthenticatedUser
  nonceSource : Option (NonceSource N)
  requireAth : Bool
  htuOverride : Option (Uri → String)

/-! ## The responses of the middleware -/

section Responses

variable {C : Type} [Inhabited C]

def unauthorizedResponse (errorCode : String) (description nonce : Option String) : Response C :=
  let authHeaderVal :=
    match description with
    | some desc => "DPoP error=\"" ++ errorCode ++ "\", error_description=\"" ++ desc ++ "\""
    | none => "DPoP error=\"" ++ errorCode ++ "\""
  let headers := HeaderMap.insertStr [] "www-authenticate" authHeaderVal
  { status := 401
    headers := nonce.elim headers fun n => headers.insertStr "dpop-nonce" n
    body := default }

def serviceUnavailableResponse : Response C where
  status := 503
  headers := HeaderMap.insertStr [] "retry-after" "1"
  body := default

/-- The response to a failed commit. -/
def commitRejection : DPoPError → Response C
  | .replayCacheSaturated => serviceUnavailableResponse
  | _ => unauthorizedResponse "invalid_dpop_proof" (some "DPoP proof replay detected") none

end Responses

/-! ## The target URI -/

def defaultHtuFromUri (scheme : Scheme) (uri : Uri) : Option String :=
  let pathAndQuery := uri.pathAndQuery.getD "/"
  let isDefaultPort (port : Option Nat) : Bool :=
    (scheme = .https ∧ port = some 443) ∨ (scheme = .http ∧ port = some 80)
  match uri.authority with
  | none => none
  | some authority =>
    let repr :=
      if uri.scheme.isSome then
        if isDefaultPort authority.portU16 then authority.host else authority.asStr
      else
        match authority.portU16 with
        | some p =>
          if isDefaultPort (some p) then authority.host else authority.host ++ ":" ++ toString p
        | none => authority.host
    some (scheme.asStr ++ "://" ++ repr ++ pathAndQuery)

namespace OAuthAuthService

variable {N B C E V : Type}

/-- The target URI of a request, if one can be derived. The scheme defaults to `https`; parsing the
    text of a scheme gives the scheme back. -/
def requestHtu (svc : OAuthAuthService N B C E V) (uri : Uri) : Option String :=
  match svc.htuOverride with
  | some f => some (f uri)
  | none =>
    match uri.scheme.getD .https with
    | .other _ => none
    | scheme => defaultHtuFromUri scheme uri

end OAuthAuthService

/-! ## Authentication -/

/-- The credentials of an `Authorization` header with the scheme `DPoP`. -/
def dpopCredentials (authHeader : String) : Option String :=
  match Text.splitOnce ' ' authHeader with
  | some (scheme, cred) =>
    if Text.eqIgnoreAsciiCase scheme "DPoP" then some (Text.trim cred) else none
  | none => none

/-- A request that passed every check before the access token is validated. -/
structure Pending where
  accessToken : String
  claims : DPoPProofClaims
  jwk : JwkEc
  admission : ReplayAdmission
  deriving Repr, DecidableEq

section Calls

variable {N B C E V : Type} [Inhabited C]

namespace OAuthAuthService

/-- A rejection that offers a fresh nonce when the service has a nonce source. -/
def challenge (svc : OAuthAuthService N B C E V) (env : Interference N) (w : SharedState N)
    (errorCode : String) (description : Option String) : Response C × SharedState N :=
  match svc.nonceSource with
  | none => (unauthorizedResponse errorCode description none, w)
  | some source =>
    let w := env.beforeChallenge w
    match source.generateNonce w.nonces with
    | (.ok nonce, n) => (unauthorizedResponse errorCode description (some nonce), { w with nonces := n })
    | (.error .nonceCacheSaturated, n) => (serviceUnavailableResponse, { w with nonces := n })
    | (.error _, n) => (unauthorizedResponse errorCode description none, { w with nonces := n })

/-- The check of the nonce a verified proof carries. -/
def checkServerNonce (svc : OAuthAuthService N B C E V) (env : Interference N) (w : SharedState N)
    (p : Pending) : Except (Response C) Pending × SharedState N :=
  let demand (w : SharedState N) : Except (Response C) Pending × SharedState N :=
    let (r, w) := svc.challenge env w "use_dpop_nonce"
      (some "Resource server requires fresh DPoP nonce")
    (.error r, w)
  match svc.nonceSource with
  | none => (.ok p, w)
  | some source =>
    match p.claims.nonce with
    | none => demand w
    | some nonce =>
      let (valid, n) := source.verifyNonce w.nonces nonce
      if valid then (.ok p, { w with nonces := n }) else demand { w with nonces := n }

/-- What `call` expects of the proof of a request. -/
def expectedProof (X : Crates) (svc : OAuthAuthService N B C E V) (accessToken htm htu : String) :
    ProofExpectation where
  htm := htm
  htu := htu
  nonce := none
  ath := if svc.requireAth then some (computeAccessTokenHash X accessToken) else none

/-- The checks on a proof for a target URI. -/
def checkProof (X : Crates) (svc : OAuthAuthService N B C E V) (env : Interference N)
    (w : SharedState N) (accessToken proof htm htu : String) (clock₁ clock₂ : SystemTime) :
    Except (Response C) Pending × SharedState N :=
  match w.verifier.verifyProofDeferred X proof (svc.expectedProof X accessToken htm htu) none clock₁
    clock₂ with
  | .ok (claims, jwk, admission) => svc.checkServerNonce env w ⟨accessToken, claims, jwk, admission⟩
  | .error (.replayDetected _) =>
    (.error (unauthorizedResponse "invalid_dpop_proof" (some "DPoP proof replay detected") none), w)
  | .error .replayCacheSaturated => (.error serviceUnavailableResponse, w)
  | .error _ =>
    let (r, w) := svc.challenge env w "invalid_dpop_proof" none
    (.error r, w)

/-- The part of `call` before its future is awaited. -/
def authenticate (X : Crates) (svc : OAuthAuthService N B C E V) (env : Interference N)
    (w : SharedState N) (req : Request B) (clock₁ clock₂ : SystemTime) :
    Except (Response C) Pending × SharedState N :=
  let reject (errorCode : String) : Except (Response C) Pending × SharedState N :=
    (.error (unauthorizedResponse errorCode none none), w)
  match req.headers.get "authorization" with
  | none => reject "missing_token"
  | some auth =>
    match auth.toStr with
    | none => reject "invalid_token"
    | some authHeader =>
      match dpopCredentials authHeader with
      | none => reject "invalid_scheme"
      | some accessToken =>
        match (req.headers.get "DPoP").orElse fun _ => req.headers.get "dpop" with
        | none =>
          if Text.trim authHeader = "" then reject "missing_dpop_proof"
          else
            let (r, w) := svc.challenge env w "missing_dpop_proof" none
            (.error r, w)
        | some dpop =>
          match dpop.toStr with
          | none => reject "invalid_dpop_proof"
          | some proof =>
            match svc.requestHtu req.uri with
            | none => reject "invalid_dpop_proof"
            | some htu => svc.checkProof X env w accessToken proof req.method htu clock₁ clock₂

end OAuthAuthService

/-! ## Calls -/

/-- What a call does: its response, the shared state it leaves, and the requests with which it
    invoked the inner service. -/
structure CallOutcome (N B C E : Type) where
  response : Except E (Response C)
  shared : SharedState N
  invocations : List (Request B)

/-- The request as the inner service gets it. -/
def Request.withUser (req : Request B) (user : AuthenticatedUser) : Request B :=
  { req with extensions := { session := some (OAuthSessionExtension.new user), user := some user } }

namespace OAuthAuthService

/-- What `call` does with a response of the inner service. -/
def finish (svc : OAuthAuthService N B C E V) (env : Interference N) (w : SharedState N)
    (response : Response C) : Response C × SharedState N :=
  if isSuccess response.status then
    match svc.nonceSource with
    | none => (response, w)
    | some source =>
      let w := env.beforeAttach w
      match source.generateNonce w.nonces with
      | (.ok nonce, n) =>
        ({ response with headers := response.headers.insertStr "dpop-nonce" nonce },
          { w with nonces := n })
      | (.error _, n) => (serviceUnavailableResponse, { w with nonces := n })
  else (response, w)

def call (X : Crates) (svc : OAuthAuthService N B C E V) (env : Interference N) (w : SharedState N)
    (req : Request B) (clock₁ clock₂ : SystemTime) : CallOutcome N B C E :=
  match svc.authenticate X env w req clock₁ clock₂ with
  | (.error r, w) => { response := .ok r, shared := w, invocations := [] }
  | (.ok p, w) =>
    let w := env.beforeCommit w
    match svc.tokenValidator p.accessToken (p.jwk.thumbprint X) with
    | .error _ =>
      { response := .ok (unauthorizedResponse "invalid_token" none none), shared := w,
        invocations := [] }
    | .ok user =>
      match w.verifier.commitReplayAdmission p.admission with
      | (.error e, v) =>
        { response := .ok (commitRejection e), shared := { w with verifier := v }, invocations := [] }
      | (.ok (), v) =>
        let w := { w with verifier := v }
        let req := req.withUser user
        match svc.inner req with
        | .error e => { response := .error e, shared := w, invocations := [req] }
        | .ok response =>
          let (r, w) := svc.finish env w response
          { response := .ok r, shared := w, invocations := [req] }

end OAuthAuthService

end Calls

end Skyauth

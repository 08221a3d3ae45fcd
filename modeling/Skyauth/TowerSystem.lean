import Skyauth.Admission
import Skyauth.Deployment
import Skyauth.NonceSystem

/-!
# Calls of the middleware side by side

Any number of calls of one `OAuthAuthService`, on any number of threads: no action uses what the calls
share more than once. So a call is cut between the verification of a nonce and the issue of another, after
the part of `call` that is not awaited, after its access token is validated, after its admission is
committed, when it invokes the inner service, while that runs, and before a nonce is attached to its
response. A scheduler picks the actions; other users of the replay cache and of the nonce source act in
between. The clock does not run backwards.
-/

namespace Skyauth

/-! ## The part of a call that is not awaited -/

/-- What it comes to. A challenge is for a response with a fresh nonce. -/
inductive Screening (C : Type) where
  | reject (response : Response C)
  | challenge (errorCode : String) (description : Option String)
  | pass (p : Pending)

namespace OAuthAuthService

variable {N B C E V : Type} [Inhabited C]

/-- The nonce of a proof that verified. -/
def screenNonce (svc : OAuthAuthService N B C E V) (w : SharedState N) (p : Pending) :
    Screening C × SharedState N :=
  match svc.nonceSource with
  | none => (.pass p, w)
  | some source =>
    match p.claims.nonce with
    | none => (.challenge "use_dpop_nonce" (some "Resource server requires fresh DPoP nonce"), w)
    | some nonce =>
      let (valid, n) := source.verifyNonce w.nonces nonce
      if valid then (.pass p, { w with nonces := n })
      else
        (.challenge "use_dpop_nonce" (some "Resource server requires fresh DPoP nonce"),
          { w with nonces := n })

/-- The proof of a request for a target URI. -/
def screenProof (X : Crates) (svc : OAuthAuthService N B C E V) (w : SharedState N)
    (accessToken proof htm htu : String) (clock₁ clock₂ : SystemTime) : Screening C × SharedState N :=
  match w.verifier.verifyProofDeferred X proof (svc.expectedProof X accessToken htm htu) none clock₁
    clock₂ with
  | .ok (claims, jwk, admission) => svc.screenNonce w ⟨accessToken, claims, jwk, admission⟩
  | .error (.replayDetected _) =>
    (.reject (unauthorizedResponse "invalid_dpop_proof" (some "DPoP proof replay detected") none), w)
  | .error .replayCacheSaturated => (.reject serviceUnavailableResponse, w)
  | .error _ => (.challenge "invalid_dpop_proof" none, w)

/-- `call` up to its future, or up to the issue of a nonce. -/
def screen (X : Crates) (svc : OAuthAuthService N B C E V) (w : SharedState N) (req : Request B)
    (clock₁ clock₂ : SystemTime) : Screening C × SharedState N :=
  let reject (errorCode : String) : Screening C × SharedState N :=
    (.reject (unauthorizedResponse errorCode none none), w)
  match req.headers.get "authorization" with
  | none => reject "missing_token"
  | some auth =>
    match auth.toStr with
    | none => reject "invalid_token"
    | some authHeader =>
      match dpopCredentials authHeader with
      | none => reject "invalid_scheme"
      | some accessToken =>
        match (req.headers.get "DPoP").orElse fun _ => req.headers.get "dpop" with
        | none =>
          if Text.trim authHeader = "" then reject "missing_dpop_proof"
          else (.challenge "missing_dpop_proof" none, w)
        | some dpop =>
          match dpop.toStr with
          | none => reject "invalid_dpop_proof"
          | some proof =>
            match svc.requestHtu req.uri with
            | none => reject "invalid_dpop_proof"
            | some htu => svc.screenProof X w accessToken proof req.method htu clock₁ clock₂

end OAuthAuthService

/-! ## The system -/

/-- Where a call stands. -/
inductive CallPhase (C E : Type) where
  /-- It is about to issue a nonce for a challenge. -/
  | challenging (errorCode : String) (description : Option String)
  /-- It is about to have its access token validated. -/
  | validating (p : Pending)
  /-- Its access token was valid. It is about to commit its admission. -/
  | committing (p : Pending) (user : AuthenticatedUser)
  /-- Its admission is committed. It is about to invoke the inner service. -/
  | invoking (p : Pending) (user : AuthenticatedUser)
  /-- The inner service runs. -/
  | serving (p : Pending) (user : AuthenticatedUser)
  /-- The inner service was successful. -/
  | attaching (p : Pending) (user : AuthenticatedUser) (response : Response C)
  | finished (response : Except E (Response C))

/-- A call: its request, the clock readings of its verification, and as a history variable the shared
    state it found. -/
structure TowerCall (N B C E : Type) where
  req : Request B
  clock₁ : SystemTime
  clock₂ : SystemTime
  entered : SharedState N
  phase : CallPhase C E

/-- The actions of the scheduler. -/
inductive TowerAction (N B : Type) where
  | tick (now : SystemTime)
  /-- `check_and_record` by another user of the replay cache. -/
  | other (jkt jti : String) (expiresAtSecs nowSecs : Nat)
  /-- `prune_expired` of the replay cache. The clock was read before. -/
  | pruneExpired (nowSecs : Nat)
  /-- Another user leaves the nonce source in this state. -/
  | nonces (n : N)
  | call (req : Request B) (clock₁ clock₂ : SystemTime)
  /-- A call goes on. -/
  | resume (i : Nat)

/-- What an action shows, and when. -/
inductive TowerEvent (B : Type) where
  | silent
  /-- The access token of a call was valid. -/
  | validated (i : Nat) (p : Pending) (user : AuthenticatedUser) (now : SystemTime)
  /-- The admission of a call was committed. -/
  | committed (i : Nat) (p : Pending) (now : SystemTime)
  /-- A call invoked the inner service. -/
  | invoked (i : Nat) (p : Pending) (req : Request B) (now : SystemTime)

/-- The request with which a call invoked the inner service. -/
def TowerEvent.invocationOf {B : Type} (i : Nat) : TowerEvent B → Option (Request B)
  | .invoked j _ req _ => if j = i then some req else none
  | _ => none

/-- The service with its calls, in the order they came. -/
structure TowerSystem (N B C E : Type) where
  shared : SharedState N
  clock : SystemTime
  calls : List (TowerCall N B C E)

namespace TowerSystem

variable {N B C E V : Type} [Inhabited C]

/-- Where a new call stands, and the shared state it leaves. -/
def enter (X : Crates) (svc : OAuthAuthService N B C E V) (w : SharedState N) (req : Request B)
    (clock₁ clock₂ : SystemTime) : CallPhase C E × SharedState N :=
  match svc.screen X w req clock₁ clock₂ with
  | (.reject r, w) => (.finished (.ok r), w)
  | (.challenge errorCode description, w) => (.challenging errorCode description, w)
  | (.pass p, w) => (.validating p, w)

/-- A call goes on: where it then stands, the shared state, and what it shows. -/
def advance (X : Crates) (svc : OAuthAuthService N B C E V) (i : Nat) (now : SystemTime)
    (w : SharedState N) (req : Request B) :
    CallPhase C E → Option (CallPhase C E × SharedState N × TowerEvent B)
  | .challenging errorCode description =>
    let (r, w) := svc.challenge (Interference.idle N) w errorCode description
    some (.finished (.ok r), w, .silent)
  | .validating p =>
    match svc.tokenValidator p.accessToken (p.jwk.thumbprint X) with
    | .error _ => some (.finished (.ok (unauthorizedResponse "invalid_token" none none)), w, .silent)
    | .ok user => some (.committing p user, w, .validated i p user now)
  | .committing p user =>
    match w.verifier.commitReplayAdmission p.admission with
    | (.error e, v) => some (.finished (.ok (commitRejection e)), { w with verifier := v }, .silent)
    | (.ok (), v) => some (.invoking p user, { w with verifier := v }, .committed i p now)
  | .invoking p user => some (.serving p user, w, .invoked i p (req.withUser user) now)
  | .serving p user =>
    match svc.inner (req.withUser user) with
    | .error e => some (.finished (.error e), w, .silent)
    | .ok response =>
      if isSuccess response.status then some (.attaching p user response, w, .silent)
      else some (.finished (.ok response), w, .silent)
  | .attaching _ _ response =>
    let (r, w) := svc.finish (Interference.idle N) w response
    some (.finished (.ok r), w, .silent)
  | .finished _ => none

/-- One action. -/
def step (X : Crates) (svc : OAuthAuthService N B C E V) (s : TowerSystem N B C E) :
    TowerAction N B → Option (TowerSystem N B C E × TowerEvent B)
  | .tick now => if s.clock.nanos ≤ now.nanos then some ({ s with clock := now }, .silent) else none
  | .other jkt jti exp now =>
    if now ≤ s.clock.secs then
      some ({ s with shared.verifier := (s.shared.verifier.record jkt jti exp now).2 }, .silent)
    else none
  | .pruneExpired now =>
    if now ≤ s.clock.secs then
      some ({ s with shared.verifier := s.shared.verifier.pruneReplayCache now }, .silent)
    else none
  | .nonces n => some ({ s with shared.nonces := n }, .silent)
  | .call req clock₁ clock₂ =>
    if clock₁.nanos ≤ clock₂.nanos ∧ s.clock.nanos ≤ clock₂.nanos then
      let (phase, w) := enter X svc s.shared req clock₁ clock₂
      some ({ shared := w, clock := clock₂, calls := s.calls ++ [⟨req, clock₁, clock₂, s.shared, phase⟩] },
        .silent)
    else none
  | .resume i => do
    let c ← s.calls[i]?
    let (phase, w, e) ← advance X svc i s.clock s.shared c.req c.phase
    return ({ s with shared := w, calls := s.calls.set i { c with phase := phase } }, e)

/-- The middleware at its start: replay prevention is enabled and no call is under way. The cache may
    hold anything. -/
structure Initial (s : TowerSystem N B C E) : Prop where
  enabled : s.shared.verifier.replayCache.isSome
  calls : s.calls = []

/-- The requests with which a call invoked the inner service in a run. -/
def invocationsOf (i : Nat) (tr : List (TowerAction N B × TowerEvent B)) : List (Request B) :=
  tr.filterMap fun x => x.2.invocationOf i

end TowerSystem

/-! ## An in-memory nonce source under the middleware -/

/-- The source with the random bytes of its issues, and as a history variable the calls on it. -/
structure RecordedSource where
  system : NonceSystem
  draws : Nat → List UInt8
  history : List (NonceAction × NonceEvent)

namespace RecordedSource

/-- A call on the source, with its event; only a move of the clock can be refused. -/
def perform (s : RecordedSource) (a : NonceAction) : RecordedSource × NonceEvent :=
  match s.system.step a with
  | some (system, e) => ({ s with system := system, history := s.history ++ [(a, e)] }, e)
  | none => (s, .silent)

/-- The random bytes of the next issue. -/
def nextDraw (s : RecordedSource) : List UInt8 := s.draws s.history.length

def nonceSource : NonceSource RecordedSource where
  generateNonce s :=
    match s.perform (.generateNonce s.nextDraw) with
    | (s, .generated result _) => (result, s)
    -- not reached: the call is answered
    | (s, _) => (.error .nonceCacheSaturated, s)
  verifyNonce s nonce :=
    match s.perform (.verifyNonce nonce) with
    | (s, .verified _ result _) => (result, s)
    -- not reached: the call is answered
    | (s, _) => (false, s)

/-- What another user of the source does: a permitted call, or the clock moves on. -/
def Moves (s s' : RecordedSource) : Prop :=
  ∃ a, s.system.Permitted a ∧ s' = (s.perform a).1

/-- Nonces that are drawn were not returned before, and other users keep to their calls. -/
def Permitted {B C E : Type} (s : TowerSystem RecordedSource B C E) : TowerAction RecordedSource B → Prop
  | .nonces n => s.shared.nonces.Moves n
  | _ => base64urlEncode s.shared.nonces.nextDraw ∉ s.shared.nonces.system.returned

/-- A new source in single-use mode. -/
structure Initial (s : RecordedSource) : Prop where
  system : s.system.Initial
  singleUse : s.system.source.singleUse = true
  history : s.history = []

end RecordedSource

end Skyauth

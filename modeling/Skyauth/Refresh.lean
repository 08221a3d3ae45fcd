import Skyauth.Session
import Skyauth.Lib.Exec

/-!
# Refreshing a session

`refresh_session_locked` of `src/client.rs`, and any number of `refresh_shared_session` calls on one
shared session. The request to the token endpoint is made by `send_dpop_token_request`, whose answer
is arbitrary. All calls are for the subject of the shared session, which a refresh does not change,
so they contend for one mutex; a scheduler picks the actions.
-/

namespace Skyauth

/-! ## One refresh -/

/-- A parsed answer of the token endpoint (`TokenResponse`). -/
structure TokenResponse where
  accessToken : String
  tokenType : String
  expiresIn : Option Nat
  refreshToken : Option String
  scope : Option String
  sub : String
  deriving Repr, DecidableEq

/-- The metadata of the client that a refresh reads (`OAuthClientMetadata`). -/
structure ClientMetadata where
  clientId : String
  clientKey : Option DPoPKey
  deriving Repr, DecidableEq

/-- The arguments of `send_dpop_token_request`; the form is given by its pairs. -/
structure TokenRequest where
  tokenEndpoint : String
  dpopKey : DPoPKey
  form : List (String × String)
  clientAuth : Option (DPoPKey × String × String)
  deriving Repr, DecidableEq

/-- The first half of `refresh_session_locked`: the refresh token and the request that submits it. -/
def refreshRequest (X : Crates) (metadata : ClientMetadata) (session : OAuthSession) :
    Except AtprotoOAuthError (String × TokenRequest) :=
  match session.refreshToken with
  | none => .error (.token .missingRefreshToken)
  | some refreshToken =>
    match session.tokenEndpoint with
    | none => .error (.token (.missingField "token_endpoint"))
    | some tokenEndpoint =>
      let resolvedIssuer := match session.authServerIssuer with
        | some iss => iss
        | none => match X.urlParse tokenEndpoint with
          | .ok url => url.origin
          | .error _ => ""
      .ok (refreshToken,
        { tokenEndpoint := tokenEndpoint
          dpopKey := session.dpopKey
          form := [("grant_type", "refresh_token"), ("refresh_token", refreshToken),
            ("client_id", metadata.clientId)]
          clientAuth := metadata.clientKey.map fun k => (k, metadata.clientId, resolvedIssuer) })

/-- The scope of a refresh response against the granted one. -/
def checkScope (granted newScope : String) : Except TokenError Unit :=
  if "atproto" ∉ Text.splitWhitespace newScope then .error (.missingAtprotoScope newScope)
  else if granted ≠ "" ∧ ¬ Text.splitWhitespace newScope ⊆ Text.splitWhitespace granted then
    .error (.scopeExpansion granted newScope)
  else .ok ()

/-- The second half of `refresh_session_locked`: the checks of the response and the rotation. -/
def acceptResponse (session : OAuthSession) (resp : TokenResponse) (now : SystemTime) :
    Except AtprotoOAuthError OAuthSession :=
  if !Text.eqIgnoreAsciiCase resp.tokenType "DPoP" then
    .error (.token (.invalidTokenType resp.tokenType))
  else if resp.sub = "" then
    .error (.token (.requestFailed 200 "invalid_request"
      (some "Refresh response is missing mandatory `sub` claim (review H4: fail-closed)")))
  else if resp.sub ≠ session.sub then .error (.token (.subMismatch session.sub resp.sub))
  else
    match resp.scope.map (checkScope (session.scope.getD "")) with
    | some (.error e) => .error (.token e)
    | _ => .ok (session.rotateTokensWithScope resp.accessToken resp.refreshToken resp.expiresIn
        resp.scope now)

/-- `refresh_session_locked`, with the answer of `send_dpop_token_request`. -/
def refreshSessionLocked (X : Crates) (metadata : ClientMetadata) (session : OAuthSession)
    (send : TokenRequest → Except AtprotoOAuthError TokenResponse) (now : SystemTime) :
    Except AtprotoOAuthError OAuthSession := do
  let (_, request) ← refreshRequest X metadata session
  let resp ← send request
  acceptResponse session resp now

/-! ## Calls on a shared session -/

/-- Where a `refresh_shared_session` call stands. -/
inductive SharedTask where
  /-- It has read the refresh token and waits for the mutex. -/
  | observed (token : String)
  /-- It has the mutex, before it reads the session again. -/
  | locked (token : String)
  /-- It has a copy of the session to refresh. -/
  | working (session : OAuthSession)
  /-- It has submitted this refresh token. -/
  | exchanging (token : String) (session : OAuthSession)
  /-- The exchange returned `Ok`, before the refreshed session is written back. -/
  | writing (session : OAuthSession)
  deriving DecidableEq

/-- The call has the mutex. -/
def SharedTask.hasGuard : SharedTask → Bool
  | .observed _ => false
  | _ => true

/-- The actions of the scheduler. -/
inductive SharedAction where
  | read
  | acquire (token : String)
  | reread (token : String)
  | submit (session : OAuthSession)
  | respond (token : String) (session : OAuthSession)
      (response : Except AtprotoOAuthError TokenResponse) (now : SystemTime)
  | writeBack (session : OAuthSession)

/-- What an action shows. -/
inductive SharedEvent where
  | silent
  | acquired (token : String)
  | submitted (token : String)
  /-- The exchange of this refresh token returned `Ok`. -/
  | exchanged (token : String)
  /-- A call returned. -/
  | returned (result : Except AtprotoOAuthError OAuthSession)
  deriving DecidableEq

/-- The shared session, the calls under way, and as a history variable the refresh tokens whose
    exchange returned `Ok`. -/
structure SharedSystem where
  shared : OAuthSession
  tasks : List SharedTask
  spent : List String

namespace SharedSystem

/-- A call goes from one stage to the next, or ends. -/
def move (s : SharedSystem) (old : SharedTask) (new : List SharedTask) : SharedSystem :=
  { s with tasks := new ++ s.tasks.erase old }

/-- One action of `refresh_shared_session`. -/
def step (X : Crates) (metadata : ClientMetadata) (s : SharedSystem) :
    SharedAction → Option (SharedSystem × SharedEvent)
  | .read =>
    match s.shared.refreshToken with
    | none => some (s, .returned (.error (.token .missingRefreshToken)))
    | some token => some ({ s with tasks := .observed token :: s.tasks }, .silent)
  | .acquire token =>
    if .observed token ∈ s.tasks ∧ s.tasks.countP SharedTask.hasGuard = 0 then
      some (s.move (.observed token) [.locked token], .acquired token)
    else none
  | .reread token =>
    if .locked token ∈ s.tasks then
      -- without a current refresh token the source goes on as if none had rotated
      if s.shared.refreshToken.any fun current =>
          !constantTimeEq (Text.asBytes current) (Text.asBytes token) then
        some (s.move (.locked token) [], .returned (.ok s.shared))
      else some (s.move (.locked token) [.working s.shared], .silent)
    else none
  | .submit session =>
    if .working session ∈ s.tasks then
      match refreshRequest X metadata session with
      | .error e => some (s.move (.working session) [], .returned (.error e))
      | .ok (token, _) =>
        some (s.move (.working session) [.exchanging token session], .submitted token)
    else none
  | .respond token session response now =>
    if .exchanging token session ∈ s.tasks then
      match response >>= (acceptResponse session · now) with
      | .error e => some (s.move (.exchanging token session) [], .returned (.error e))
      | .ok refreshed =>
        some ({ s.move (.exchanging token session) [.writing refreshed] with
                spent := token :: s.spent }, .exchanged token)
    else none
  | .writeBack session =>
    if .writing session ∈ s.tasks then
      some ({ s.move (.writing session) [] with shared := session }, .returned (.ok session))
    else none

/-- No call is under way yet. -/
structure Initial (s : SharedSystem) : Prop where
  tasks : s.tasks = []
  spent : s.spent = []

end SharedSystem

/-- A response that a refresh of this session accepts. -/
structure TokenResponse.Acceptable (session : OAuthSession) (resp : TokenResponse) : Prop where
  tokenType : Text.eqIgnoreAsciiCase resp.tokenType "DPoP" = true
  sub_nonempty : resp.sub ≠ ""
  sub : resp.sub = session.sub
  scope : ∀ scope, resp.scope = some scope → "atproto" ∈ Text.splitWhitespace scope ∧
    (session.scope.getD "" ≠ "" →
      Text.splitWhitespace scope ⊆ Text.splitWhitespace (session.scope.getD ""))

/-- Every accepted response carries a refresh token that is neither the one that was submitted nor
    any whose exchange returned `Ok` before. -/
def Rotates (s : SharedSystem) : SharedAction → Prop
  | .respond token session response _ =>
    ∀ resp, response = .ok resp → resp.Acceptable session →
      ∃ next, resp.refreshToken = some next ∧ next ≠ token ∧ next ∉ s.spent
  | _ => True

/-! ## One session refreshed again and again -/

/-- `refresh_session`: the result and the session in place, which only the final rotation changes. -/
def refreshSession (X : Crates) (metadata : ClientMetadata) (session : OAuthSession)
    (send : TokenRequest → Except AtprotoOAuthError TokenResponse) (now : SystemTime) :
    Except AtprotoOAuthError Unit × OAuthSession :=
  match refreshSessionLocked X metadata session send now with
  | .error e => (.error e, session)
  | .ok refreshed => (.ok (), refreshed)

/-- A call of `refresh_session`: what its token request comes to, and its clock reading. -/
structure RefreshCall where
  outcome : Except AtprotoOAuthError TokenResponse
  now : SystemTime

/-- A session between two calls, and as a history variable the last response that was accepted. -/
structure RefreshChain where
  session : OAuthSession
  accepted : TokenResponse
  deriving DecidableEq

/-- One call. -/
def RefreshChain.step (X : Crates) (metadata : ClientMetadata) (c : RefreshChain)
    (call : RefreshCall) : Option (RefreshChain × Except AtprotoOAuthError Unit) :=
  match refreshSession X metadata c.session (fun _ => call.outcome) call.now, call.outcome with
  | (.ok (), session), .ok resp => some ({ session := session, accepted := resp }, .ok ())
  | (result, session), _ => some ({ c with session := session }, result)

end Skyauth
